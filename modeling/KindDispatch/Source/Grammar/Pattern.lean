import KindDispatch.Source.Grammar.Type

/-!
# Patterns
-/

namespace KindDispatch.Source.Grammar

open Source.Parser

def opensAlternative (tokens : Tokens) : Bool :=
  tokens.punct "|" && !tokens.punct "||" && !tokens.punct "|="

/-- Alternatives with bars between them; a bar in front of the first makes one as well. -/
def alternatives (grammar : Grammar) (leading : Bool) : Parser Element := do
  let leading ← if leading then optPunct "|" else pure false
  let first ← grammar .pattern
  if leading || opensAlternative (← ahead) then
    let others ← collectWhile opensAlternative do
      punct "|"
      grammar .pattern
    return .plain .orPattern (first :: others)
  else return first

def patterns (grammar : Grammar) : Parser Element := grammar.alternatives true

def pathElement (self : Option Element) (path : Path) : Element :=
  .named .pathExpr path.name (self.toList ++ [path.element])

/-- The dots of a range; answers whether its end belongs to it.  Three dots are an old way to write
`..=`. -/
def rangeDots (threeDots : Bool) : Parser Bool := do
  let tokens ← ahead
  if tokens.punct "..=" then punct "..="; return true
  else if tokens.punct "..." then
    if threeDots then punct "..."; return true
    else unmet [.punct "..="]
  else if tokens.punct ".." then punct ".."; return false
  else unmet [.punct ".."]

def constExpr (grammar : Grammar) : Parser Element := do
  keyword "const"
  let (attributes, block) ← grammar.attributedBlock
  return ⟨.constExpr, none, attributes, [block]⟩

def rangeEndStarts : List Expectation := [.literal, .identifier, .punct "::", .punct "<",
  .keyword "self", .keyword "Self", .keyword "super", .keyword "crate", .keyword "const"]

def rangeEnd (grammar : Grammar) : Parser (Option Element) := do
  let tokens ← ahead
  if tokens.isEmpty || tokens.punct "|" || tokens.punct "=" ||
      (tokens.punct ":" && !tokens.punct "::") || tokens.punct "," || tokens.punct ";" ||
      tokens.keyword "if" then
    return none
  else if tokens.literal then
    discard literal
    return some (.plain .literalExpr [])
  else if tokens.identifier || tokens.punct "::" || tokens.punct "<" || isPathWord tokens then
    let (self, path) ← grammar.qualifiedPath true
    return some (pathElement self path)
  else if tokens.keyword "const" then return some (← grammar.constExpr)
  else unmet rangeEndStarts

def rangePattern (grammar : Grammar) (start : Element) : Parser Element := do
  let dots ← position
  let closed ← rangeDots true
  match ← grammar.rangeEnd with
  | some stop => return .plain (.rangeExpr dots true) [start, stop]
  | none =>
    if closed then fail "expected range upper bound"
    else return .plain (.rangeExpr dots false) [start]

def openRangePattern (grammar : Grammar) : Parser Element := do
  let dots ← position
  let closed ← rangeDots false
  match ← grammar.rangeEnd with
  | some stop => return .plain (.rangeExpr dots false) [stop]
  | none =>
    if closed then fail "expected range upper bound" else return .plain .restPattern []

def placeNumberFailure? (negative : Bool) (value : Nat) (suffixed : Bool) : Option String :=
  if suffixed then some "expected unsuffixed integer"
  else if negative then some "invalid digit found in string"
  else if UInt32.size ≤ value then some "number too large to fit in target type"
  else none

def member : Parser (Option Name) := do
  let tokens ← ahead
  match tokens.literal? with
  | some (.integer value suffixed, _) =>
    match placeNumberFailure? (tokens.punct "-") value suffixed with
    | some message => raise (.ofPosition (← position) message)
    | none =>
      discard literal
      return none
  | _ =>
    if tokens.identifier then return some (← identifier)
    else fail "expected identifier or integer"

def fieldPattern (grammar : Grammar) : Parser Element := do
  let boxed ← optKeyword "box"
  let byRef ← optKeyword "ref"
  let mutable ← optKeyword "mut"
  let modified := boxed || byRef || mutable
  let name ← if modified then some <$> identifier else member
  if (!modified && (← peekPunct ":")) || name.isNone then
    punct ":"
    return .plain .fieldPattern [← grammar.patterns]
  else if boxed then return .plain .fieldPattern [.opaqueText]
  else return .plain .fieldPattern [.named .identPattern name []]

def structPatternFields (grammar : Grammar) : Parser (List Element) :=
  collect do
    if ← atEnd then return .stop
    let attributes ← grammar.outerAttributes
    if ← optPunct ".." then return .last ⟨.restPattern, none, attributes, []⟩
    let field ← grammar.fieldPattern
    unless ← atEnd do punct ","
    return .more { field with attributes }

def pathLedPattern (grammar : Grammar) : Parser Element := do
  let (self, path) ← grammar.qualifiedPath true
  let tokens ← ahead
  let head := self.toList ++ [path.element]
  if self.isNone && opensMacroCall path tokens then
    return .named (.macroExpr ((← macroCall) = .brace)) path.name head
  else if tokens.group .brace then
    let fields ← group .brace grammar.structPatternFields
    return .named .structPattern path.name (head ++ fields)
  else if tokens.group .parenthesis then
    let elements ← group .parenthesis (commaList grammar.patterns)
    return .named .tupleStructPattern path.name (head ++ elements)
  else if tokens.punct ".." then grammar.rangePattern (pathElement self path)
  else return pathElement self path

def identPattern (grammar : Grammar) : Parser Element := do
  discard (optKeyword "ref")
  discard (optKeyword "mut")
  let name ← if ← peekKeyword "self" then anyWord else identifier
  let inner ← if ← optPunct "@" then pure [← grammar .pattern] else pure []
  return .named .identPattern (some name) inner

def parenthesizedPattern (grammar : Grammar) : Parser Element :=
  group .parenthesis do
    if ← atEnd then return .plain .tuplePattern []
    let first ← grammar.patterns
    if (← atEnd) && first.construct ≠ .restPattern then return .plain .parenPattern [first]
    unless ← atEnd do punct ","
    return .plain .tuplePattern (first :: (← commaList grammar.patterns))

def slicePattern (grammar : Grammar) : Parser Element := do
  let elements ← group .bracket <| commaList do
    let element ← grammar.patterns
    match element.construct with
    | .rangeExpr dots false =>
      raise (.ofPosition dots
        "range pattern is not allowed unparenthesized inside slice pattern")
    | _ => return element
  return .plain .slicePattern elements

def constantPattern (grammar : Grammar) : Parser Element := do
  match ← grammar.rangeEnd with
  | some start => if ← peekPunct ".." then grammar.rangePattern start else return start
  | none => unmet rangeEndStarts

def patternStarts : List Expectation := [.identifier, .punct "::", .punct "<", .keyword "_",
  .literal, .keyword "const", .keyword "ref", .keyword "mut", .punct "&", .group .parenthesis,
  .group .bracket, .punct "..", .keyword "const"]

def readPattern (grammar : Grammar) : Parser Element := do
  let tokens ← ahead
  let second : Tokens := tokens.after 1
  if (tokens.identifier && (second.punct "::" || second.punct "!" || second.group .brace ||
        second.group .parenthesis || second.punct "..")) ||
      (tokens.keyword "self" && second.punct "::") || tokens.punct "::" || tokens.punct "<" ||
      tokens.keyword "Self" || tokens.keyword "super" || tokens.keyword "crate" then
    grammar.pathLedPattern
  else if tokens.keyword "_" then
    discard anyWord
    return .plain .wildcardPattern []
  else if tokens.keyword "box" then
    discard anyWord
    discard (grammar .pattern)
    return .opaqueText
  else if tokens.punct "-" || tokens.literal || tokens.keyword "const" then
    grammar.constantPattern
  else if tokens.keyword "ref" || tokens.keyword "mut" || tokens.keyword "self" ||
      tokens.identifier then
    grammar.identPattern
  else if tokens.punct "&" then
    punct "&"
    discard (optKeyword "mut")
    return .plain .referencePattern [← grammar .pattern]
  else if tokens.group .parenthesis then grammar.parenthesizedPattern
  else if tokens.group .bracket then grammar.slicePattern
  else if tokens.punct ".." && !tokens.punct "..." then grammar.openRangePattern
  else unmet patternStarts

end KindDispatch.Source.Grammar
