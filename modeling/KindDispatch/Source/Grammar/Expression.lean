import KindDispatch.Source.Cursor
import KindDispatch.Source.Grammar.Generics
import KindDispatch.Source.Grammar.Pattern
import KindDispatch.Source.Literal
import KindDispatch.Source.TokenStream

/-!
# Expressions

An operand is an atom with calls, fields and the like behind it (`trailers`) and operators in front
of it (`readUnary`).  Binary operators are read by precedence climbing (`readOperators`).
-/

namespace KindDispatch.Source

namespace Construct

def isRange : Construct → Bool
  | rangeExpr .. => true
  | _ => false

/-- Expressions that end with a block, so that nothing has to separate them from what follows. -/
def isBlockLike : Construct → Bool
  | ifExpr | matchExpr | blockExpr | unsafeExpr | whileExpr | loopExpr | forExpr | tryBlockExpr
  | constExpr => true
  | _ => false

def hasLeftOperand : Construct → Bool
  | assignExpr | binaryExpr _ | castExpr => true
  | _ => false

end Construct

namespace Grammar

open Source.Parser

/-- Binary operators with their precedences; of two that fit the earlier one is meant. -/
def binaryOperators : List (String × Precedence) := [
  ("+=", .assign), ("-=", .assign), ("*=", .assign), ("/=", .assign), ("%=", .assign),
  ("^=", .assign), ("&=", .assign), ("|=", .assign), ("<<=", .assign), (">>=", .assign),
  ("&&", .and), ("||", .or), ("<<", .shift), (">>", .shift), ("==", .comparison),
  ("<=", .comparison), ("!=", .comparison), (">=", .comparison), ("+", .sum), ("-", .sum),
  ("*", .product), ("/", .product), ("%", .product), ("^", .bitXor), ("&", .bitAnd),
  ("|", .bitOr), ("<", .comparison), (">", .comparison)]

def binaryOperator? (tokens : Tokens) : Option (String × Precedence) :=
  binaryOperators.find? fun (text, _) => tokens.punct text

def opensAssignment (tokens : Tokens) : Bool := tokens.punct "=" && !tokens.punct "=>"

def precedenceAhead (tokens : Tokens) : Precedence :=
  match binaryOperator? tokens with
  | some (_, precedence) => precedence
  | none =>
    if opensAssignment tokens then .assign
    else if tokens.punct ".." then .range
    else if tokens.keyword "as" then .cast
    else .jump

def opensExpression (tokens : Tokens) : Bool :=
  (tokens.anyWord && !tokens.keyword "as") || tokens.group .parenthesis ||
    tokens.group .bracket || tokens.group .brace || tokens.literal || (tokens.punct "!" && !tokens.punct "!=") ||
    (tokens.punct "-" && !tokens.punct "-=" && !tokens.punct "->") ||
    (tokens.punct "*" && !tokens.punct "*=") || (tokens.punct "|" && !tokens.punct "|=") ||
    (tokens.punct "&" && !tokens.punct "&=") || tokens.punct ".." ||
    (tokens.punct "<" && !tokens.punct "<=" && !tokens.punct "<<=") || tokens.punct "::" ||
    tokens.lifetime || tokens.punct "#"

/-! ## Operators -/

/-- A right operand, with all operators behind it that bind more tightly. -/
def operand (grammar : Grammar) (structs : Bool) (precedence : Precedence) : Parser Element := do
  let first ← grammar (.unary structs)
  loop (fun right => do
    let next := precedenceAhead (← ahead)
    if right.construct.isRange then return .stop
    else if precedence < next ∨ (next = precedence ∧ precedence = .assign) then
      return .more (← grammar (.operators structs next right))
    else return .stop) first

def endsRange (structs : Bool) (tokens : Tokens) : Bool :=
  tokens.isEmpty || tokens.punct "," || tokens.punct ";" ||
    (tokens.punct "." && !tokens.punct "..") || tokens.punct "?" || tokens.punct "=>" ||
    (!structs && tokens.group .brace) || tokens.punct "=" || tokens.punct "+" ||
    tokens.punct "/" || tokens.punct "%" || tokens.punct "^" || tokens.punct ">" ||
    tokens.punct "<=" || tokens.punct "!=" || tokens.punct "-=" || tokens.punct "*=" ||
    tokens.punct "&=" || tokens.punct "|=" || tokens.punct "<<=" || tokens.keyword "as"

def rangeTail (grammar : Grammar) (structs : Bool) (start : Option Element) : Parser Element := do
  let dots ← position
  let closed ← rangeDots false
  if !closed && endsRange structs (← ahead) then
    return .plain (.rangeExpr dots false) start.toList
  else
    let stop ← grammar.operand structs .range
    return .plain (.rangeExpr dots start.isSome) (start.toList ++ [stop])

def afterCast? (tokens : Tokens) : Option String :=
  let second : Tokens := tokens.after 1
  let third : Tokens := tokens.after 2
  if tokens.punct "." && !tokens.punct ".." then
    if second.keyword "await" then some "`.await`"
    else if second.identifier && (third.group .parenthesis || third.punct "::") then
      some "a method call"
    else some "a field access"
  else if tokens.punct "?" then some "`?`"
  else if tokens.group .bracket then some "indexing"
  else if tokens.group .parenthesis then some "a function call"
  else none

def castTail (grammar : Grammar) (left : Element) : Parser Element := do
  keyword "as"
  let type ← grammar (.type false)
  match afterCast? (← ahead) with
  | some what => fail ("casts cannot be followed by " ++ what)
  | none => return .plain .castExpr [left, type]

def readOperators (grammar : Grammar) (structs : Bool) (base : Precedence) (left : Element) :
    Parser Element :=
  loop (fun left => do
    if left.construct.isRange then return .stop
    let tokens ← ahead
    match binaryOperator? tokens with
    | some (text, precedence) =>
      if precedence < base then return .stop
      else
        let comparison : Bool := precedence = .comparison
        if comparison && left.construct = .binaryExpr true then
          fail "comparison operators cannot be chained"
        else
          skip text.length
          let right ← grammar.operand structs precedence
          return .more (.plain (.binaryExpr comparison) [left, right])
    | none =>
      if base ≤ .assign ∧ opensAssignment tokens then
        punct "="
        let right ← grammar.operand structs .assign
        return .more (.plain .assignExpr [left, right])
      else if base ≤ .range ∧ tokens.punct ".." then
        return .more (← grammar.rangeTail structs (some left))
      else if base ≤ .cast ∧ tokens.keyword "as" then return .more (← grammar.castTail left)
      else return .stop) left

/-! ## What follows an atom -/

/-- Why a text is not the number of a place, if it is not: digits with an exponent are no integer,
and a base without digits of its own is no number at all. -/
def placeFailure? (negative : Bool) (text : List Char) : Option String :=
  let number := Cursor.ofList text
  match number.real?, number.integer? with
  | some _, _ => some "expected integer literal"
  | none, some (value, suffixed, _) => placeNumberFailure? negative value suffixed
  | none, none => some unreadableMessage

def splitDots : List Char → List (List Char)
  | [] => [[]]
  | c :: rest =>
    match splitDots rest with
    | [] => [[c]]
    | first :: others => if c = '.' then [] :: first :: others else (c :: first) :: others

/-- Takes one field after the other, for numbers that were read as one number with a fraction. -/
def fieldChain (start : Position) (negative : Bool) :
    List (List Char) → Element → Parser Element
  | [], base => return base
  | text :: rest, base => do
    match placeFailure? negative text with
    | some message => raise (.ofPosition start message)
    | none => fieldChain start false rest (.plain .fieldExpr [base])

def memberTail (grammar : Grammar) (base : Element) : Parser Element := do
  if ← optKeyword "await" then return .plain .awaitExpr [base]
  let name ← member
  let turbofish ←
    if name.isSome && (← peekPunct "::") then pure [← grammar .arguments] else pure []
  if name.isSome && (!turbofish.isEmpty || (← peekGroup .parenthesis)) then
    let arguments ← group .parenthesis (commaList grammar.expression)
    return .named .methodCallExpr name (base :: turbofish ++ arguments)
  else return .named .fieldExpr name [base]

def dotTail (grammar : Grammar) (base : Element) : Parser Element := do
  punct "."
  let start ← position
  let tokens ← ahead
  match tokens.literal? with
  | some (.real text, _) =>
    discard literal
    let trailingDot := text.getLast? = some '.'
    let places := splitDots (if trailingDot then text.dropLast else text)
    let base ← fieldChain start (tokens.punct "-") places base
    if trailingDot then grammar.memberTail base else return base
  | _ => grammar.memberTail base

def trailers (grammar : Grammar) (atom : Element) : Parser Element :=
  loop (fun base => do
    let tokens ← ahead
    let range := base.construct.isRange
    if tokens.group .parenthesis then
      let arguments ← group .parenthesis (commaList grammar.expression)
      return .more (.plain .callExpr (base :: arguments))
    else if tokens.punct "." && !tokens.punct ".." && !range then
      return .more (← grammar.dotTail base)
    else if tokens.group .bracket then
      return .more (.plain .indexExpr [base, ← group .bracket grammar.expression])
    else if tokens.punct "?" && !range then
      punct "?"
      return .more (.plain .tryExpr [base])
    else return .stop) atom

/-! ## Atoms -/

def blockExpr (grammar : Grammar) : Parser Element := do
  let (attributes, block) ← grammar.attributedBlock
  return ⟨.blockExpr, none, attributes, [block]⟩

def plainBlockExpr (grammar : Grammar) : Parser Element := do
  return .plain .blockExpr [← grammar.block]

def readConditional (grammar : Grammar) : Parser Element := do
  keyword "if"
  let condition ← grammar.condition
  let block ← grammar.block
  unless ← optKeyword "else" do return .plain .ifExpr [condition, block]
  let tokens ← ahead
  if tokens.keyword "if" then
    return .plain .ifExpr [condition, block, ← grammar .conditional]
  else if tokens.group .brace then
    return .plain .ifExpr [condition, block, ← grammar.plainBlockExpr]
  else unmet [.keyword "if", .group .brace]

def whileExpr (grammar : Grammar) : Parser Element := do
  keyword "while"
  let condition ← grammar.condition
  let (attributes, block) ← grammar.attributedBlock
  return ⟨.whileExpr, none, attributes, [condition, block]⟩

def forExpr (grammar : Grammar) : Parser Element := do
  keyword "for"
  let pattern ← grammar.patterns
  keyword "in"
  let sequence ← grammar.condition
  let (attributes, block) ← grammar.attributedBlock
  return ⟨.forExpr, none, attributes, [pattern, sequence, block]⟩

def loopExpr (grammar : Grammar) : Parser Element := do
  keyword "loop"
  let (attributes, block) ← grammar.attributedBlock
  return ⟨.loopExpr, none, attributes, [block]⟩

def unsafeExpr (grammar : Grammar) : Parser Element := do
  keyword "unsafe"
  let (attributes, block) ← grammar.attributedBlock
  return ⟨.unsafeExpr, none, attributes, [block]⟩

def tryBlockExpr (grammar : Grammar) : Parser Element := do
  keyword "try"
  return .plain .tryBlockExpr [← grammar.block]

def asyncExpr (grammar : Grammar) : Parser Element := do
  keyword "async"
  discard (optKeyword "move")
  return .plain .asyncExpr [← grammar.block]

def labeledExpr (grammar : Grammar) : Parser Element := do
  lifetime
  punct ":"
  let tokens ← ahead
  if tokens.keyword "while" then grammar.whileExpr
  else if tokens.keyword "for" then grammar.forExpr
  else if tokens.keyword "loop" then grammar.loopExpr
  else if tokens.group .brace then grammar.blockExpr
  else fail "expected loop or block expression"

def letExpr (grammar : Grammar) (structs : Bool) : Parser Element := do
  keyword "let"
  let pattern ← grammar.patterns
  punct "="
  let first ← grammar (.unary structs)
  let value ← grammar (.operators structs .comparison first)
  return .plain .letExpr [pattern, value]

/-- A parameter of a closure.  Attributes in front of one without a type stand in the place of those
inside its pattern. -/
def closureParam (grammar : Grammar) : Parser Element := do
  let attributes ← grammar.outerAttributes
  let pattern ← grammar .pattern
  if ← optPunct ":" then
    return ⟨.typedPattern, none, attributes, [pattern, ← grammar.type]⟩
  else if pattern.isOpaque then return pattern
  else return { pattern with attributes }

def closureExpr (grammar : Grammar) (structs : Bool) : Parser Element := do
  let binder ← grammar.optBinder
  for word in ["const", "static", "async", "move"] do discard (optKeyword word)
  punct "|"
  let params ← separated (·.punct "|") "," grammar.closureParam
  punct "|"
  if ← optPunct "->" then
    let result ← grammar.type
    let body ← grammar.plainBlockExpr
    return .plain .closureExpr (binder ++ params ++ [result, body])
  else
    let body ← grammar (.expression structs)
    return .plain .closureExpr (binder ++ params ++ [body])

def fieldValue (grammar : Grammar) : Parser Element := do
  let attributes ← grammar.outerAttributes
  match ← member with
  | some name =>
    if ← optPunct ":" then return ⟨.fieldValue, none, attributes, [← grammar.expression]⟩
    else return ⟨.fieldValue, none, attributes, [pathElement none (.ofName name)]⟩
  | none =>
    punct ":"
    return ⟨.fieldValue, none, attributes, [← grammar.expression]⟩

def structFields (grammar : Grammar) : Parser (List Element) :=
  collect do
    if ← atEnd then return .stop
    if ← optPunct ".." then
      if ← atEnd then return .stop else return .last (← grammar.expression)
    let field ← grammar.fieldValue
    unless ← atEnd do punct ","
    return .more field

def pathLedExpr (grammar : Grammar) (structs : Bool) : Parser Element := do
  let (self, path) ← grammar.qualifiedPath true
  let tokens ← ahead
  if self.isNone && opensMacroCall path tokens then
    return .named (.macroExpr ((← macroCall) = .brace)) path.name [path.element]
  else if structs && tokens.group .brace then
    let fields ← group .brace grammar.structFields
    return .named .structExpr path.name (self.toList ++ path.element :: fields)
  else return pathElement self path

def parenthesizedExpr (grammar : Grammar) : Parser Element :=
  group .parenthesis do
    if ← atEnd then return .plain .tupleExpr []
    let first ← grammar.expression
    if ← atEnd then return .plain .parenExpr [first]
    punct ","
    return .plain .tupleExpr (first :: (← commaList grammar.expression))

def bracketedExpr (grammar : Grammar) : Parser Element :=
  group .bracket do
    if ← atEnd then return .plain .arrayExpr []
    let first ← grammar.expression
    if (← atEnd) || (← peekPunct ",") then
      unless ← atEnd do punct ","
      return .plain .arrayExpr (first :: (← commaList grammar.expression))
    else if ← optPunct ";" then return .plain .repeatExpr [first, ← grammar.expression]
    else fail "expected `,` or `;`"

def breakExpr (grammar : Grammar) (structs : Bool) : Parser Element := do
  keyword "break"
  let tokens ← ahead
  if tokens.lifetime && (tokens.after 1 : Tokens).punct ":" then
    let start ← position
    discard grammar.expression
    raise (.ofPosition start "parentheses required")
  discard optLifetime
  let tokens ← ahead
  if opensExpression tokens && (structs || !tokens.group .brace) then
    return .plain .breakExpr [← grammar.expression]
  else return .plain .breakExpr []

def jumpExpr (grammar : Grammar) (word : String) (construct : Construct) : Parser Element := do
  keyword word
  if opensExpression (← ahead) then return .plain construct [← grammar.expression]
  else return .plain construct []

/-- One arm of a match, and the comma behind it, which a block makes needless. -/
def matchArm (grammar : Grammar) : Parser Element := do
  let attributes ← grammar.outerAttributes
  let pattern ← grammar.patterns
  let guarded ← if ← optKeyword "if" then pure [← grammar.expression] else pure []
  punct "=>"
  let body ← grammar .statementExpression
  if body.construct.isBlockLike || (← atEnd) then discard (optPunct ",") else punct ","
  return ⟨.matchArm, none, attributes, pattern :: guarded ++ [body]⟩

def matchExpr (grammar : Grammar) : Parser Element := do
  keyword "match"
  let scrutinee ← grammar.condition
  let (attributes, arms) ← group .brace do
    let attributes ← grammar.innerAttributes
    return (attributes, ← untilEnd grammar.matchArm)
  return ⟨.matchExpr, none, attributes, scrutinee :: arms⟩

def opensClosure (tokens : Tokens) : Bool :=
  let second : Tokens := tokens.after 1
  tokens.punct "|" || tokens.keyword "move" ||
    (tokens.keyword "for" && opensGenericParams second) ||
    (tokens.keyword "const" && !second.group .brace) || tokens.keyword "static" ||
    (tokens.keyword "async" && (second.punct "|" || second.keyword "move"))

def atom (grammar : Grammar) (structs : Bool) : Parser Element := do
  let tokens ← ahead
  let second : Tokens := tokens.after 1
  let third : Tokens := tokens.after 2
  if tokens.literal then
    discard literal
    return .plain .literalExpr []
  else if tokens.keyword "async" &&
      (second.group .brace || (second.keyword "move" && third.group .brace)) then
    grammar.asyncExpr
  else if tokens.keyword "try" && second.group .brace then grammar.tryBlockExpr
  else if opensClosure tokens then grammar.closureExpr structs
  else if opensBuiltinForm tokens then builtinForm
  else if tokens.identifier || tokens.punct "::" || tokens.punct "<" || isPathWord tokens ||
      (tokens.keyword "try" && (second.punct "!" || second.punct "::")) then
    grammar.pathLedExpr structs
  else if tokens.group .parenthesis then grammar.parenthesizedExpr
  else if tokens.keyword "break" then grammar.breakExpr structs
  else if tokens.keyword "continue" then
    keyword "continue"
    discard optLifetime
    return .plain .continueExpr []
  else if tokens.keyword "return" then grammar.jumpExpr "return" .returnExpr
  else if tokens.keyword "become" then
    keyword "become"
    discard grammar.expression
    return .opaqueText
  else if tokens.group .bracket then grammar.bracketedExpr
  else if tokens.keyword "let" then grammar.letExpr structs
  else if tokens.keyword "if" then grammar.readConditional
  else if tokens.keyword "while" then grammar.whileExpr
  else if tokens.keyword "for" then grammar.forExpr
  else if tokens.keyword "loop" then grammar.loopExpr
  else if tokens.keyword "match" then grammar.matchExpr
  else if tokens.keyword "yield" then grammar.jumpExpr "yield" .yieldExpr
  else if tokens.keyword "unsafe" then grammar.unsafeExpr
  else if tokens.keyword "const" then grammar.constExpr
  else if tokens.group .brace then grammar.blockExpr
  else if tokens.punct ".." then grammar.rangeTail structs none
  else if tokens.keyword "_" then
    discard anyWord
    return .plain .inferExpr []
  else if tokens.lifetime then grammar.labeledExpr
  else fail "expected an expression"

/-- An atom with what follows it; attributes in front belong to the whole. -/
def attributedAtom (grammar : Grammar) (structs : Bool) (attributes : List Element) :
    Parser Element := do
  let expression ← grammar.trailers (← grammar.atom structs)
  match expression.construct with
  | .rangeExpr dots _ =>
    unless attributes.isEmpty do
      raise (.ofPosition dots
        "attributes are not allowed on range expressions starting with `..`")
    return expression
  | _ => return expression.withAttributes attributes

def readUnary (grammar : Grammar) (structs : Bool) : Parser Element := do
  let attributes ← grammar.outerAttributes
  let tokens ← ahead
  if tokens.punct "&" then
    punct "&"
    let tokens ← ahead
    let second : Tokens := tokens.after 1
    let raw := tokens.keyword "raw" && (second.keyword "mut" || second.keyword "const")
    if raw then keyword "raw"
    let mutable ← optKeyword "mut"
    if raw && !mutable then keyword "const"
    let target ← grammar (.unary structs)
    return ⟨if raw then .rawAddressExpr else .referenceExpr, none, attributes, [target]⟩
  else if tokens.punct "*" || tokens.punct "!" || tokens.punct "-" then
    skip 1
    return ⟨.unaryExpr, none, attributes, [← grammar (.unary structs)]⟩
  else grammar.attributedAtom structs attributes

def readExpression (grammar : Grammar) (structs : Bool) : Parser Element := do
  let first ← grammar.readUnary structs
  grammar.readOperators structs .jump first

def optBlockLike (grammar : Grammar) : Parser (Option Element) := do
  let tokens ← ahead
  let second : Tokens := tokens.after 1
  if tokens.keyword "if" then return some (← grammar.readConditional)
  else if tokens.keyword "while" then return some (← grammar.whileExpr)
  else if tokens.keyword "for" && !opensGenericParams second then
    return some (← grammar.forExpr)
  else if tokens.keyword "loop" then return some (← grammar.loopExpr)
  else if tokens.keyword "match" then return some (← grammar.matchExpr)
  else if tokens.keyword "try" && second.group .brace then
    return some (← grammar.tryBlockExpr)
  else if tokens.keyword "unsafe" then return some (← grammar.unsafeExpr)
  else if tokens.keyword "const" && second.group .brace then
    return some (← grammar.constExpr)
  else if tokens.group .brace then return some (← grammar.blockExpr)
  else if tokens.lifetime then return some (← grammar.labeledExpr)
  else return none

/-- Reads an expression that a block at its start ends, unless a dot or question mark follows. -/
def readStatementExpression (grammar : Grammar) : Parser Element := do
  let attributes ← grammar.outerAttributes
  match ← grammar.optBlockLike with
  | none =>
    let first ← grammar.readUnary true
    grammar.readOperators true .jump (first.withAttributes attributes)
  | some block =>
    let tokens ← ahead
    if (tokens.punct "." && !tokens.punct "..") || tokens.punct "?" then
      let first ← grammar.trailers block
      grammar.readOperators true .jump (first.withAttributes attributes)
    else return block.withAttributes attributes

end Grammar

end KindDispatch.Source
