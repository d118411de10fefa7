import KindDispatch.Source.Grammar.Path

/-!
# Types
-/

namespace KindDispatch.Source.Grammar

open Source.Parser

def macroCall : Parser Delimiter := do
  punct "!"
  anyGroup

def opensMacroCall (path : Path) (tokens : Tokens) : Bool :=
  tokens.punct "!" && !tokens.punct "!=" && path.isBare

def abi : Parser Unit := do
  keyword "extern"
  if (← ahead).stringLiteral then discard literal

def optAbi : Parser Unit := do
  if ← peekKeyword "extern" then abi

def boundsWithTrait (start : Position) (message : String) (bounds : List Bound) :
    Parser (List Element) := do
  if bounds.any fun bound => bound.form = .trait || bound.form = .opaqueText then
    return bounds.map Bound.element
  else raise (.ofPosition start message)

def traitObjectBounds (grammar : Grammar) (start : Position) (plus : Bool) :
    Parser (List Element) := do
  boundsWithTrait start "at least one trait is required for an object type"
    (← grammar.bounds plus false false)

def traitObject (grammar : Grammar) : Parser Element := do
  let start ← position
  let dynamic ← optKeyword "dyn"
  let bounds ← grammar.traitObjectBounds start true
  return .plain (.traitObjectType (!dynamic && bounds.length = 1)) bounds

def moreBounds (grammar : Grammar) : Parser (List Element) :=
  collectWhile (·.punct "+") do
    punct "+"
    return (← grammar.bound false false).element

def functionTypeParam (grammar : Grammar) (first : Bool) : Parser Element := do
  let mutable ← do
    let tokens ← ahead
    if first && tokens.keyword "mut" && (tokens.after 1 : Tokens).keyword "self" then
      optKeyword "mut"
    else pure false
  let tokens ← ahead
  let second : Tokens := tokens.after 1
  let named := (tokens.identifier || tokens.keyword "_" || (first && tokens.keyword "self")) &&
    second.punct ":" && !second.punct "::"
  if named then
    discard anyWord
    punct ":"
  let self := named && !tokens.identifier && !tokens.keyword "_"
  let tokens ← ahead
  if first && !self && tokens.keyword "mut" && (tokens.after 1 : Tokens).keyword "self" then
    keyword "mut"
    keyword "self"
    return .opaqueText
  else if mutable && !named then
    keyword "self"
    return .opaqueText
  else
    let type ← grammar.type
    if mutable then return .opaqueText else return type

def functionTypeParams (grammar : Grammar) : Parser (List Element) := do
  let turn (first : Bool) : Parser (Turn Element) := do
    if ← atEnd then return .stop
    let attributes ← grammar.outerAttributes
    let tokens ← ahead
    let second : Tokens := tokens.after 1
    let third : Tokens := tokens.after 2
    let namedDots := (tokens.identifier || tokens.keyword "_") && second.punct ":" &&
      third.punct "..."
    if tokens.punct "..." || namedDots then
      if namedDots then skip 2
      punct "..."
      discard (optPunct ",")
      return .last ⟨.variadic, none, attributes, []⟩
    let type ← grammar.functionTypeParam first
    unless ← atEnd do punct ","
    return .more ⟨.parameter, none, attributes, [type]⟩
  match ← turn true with
  | .stop => return []
  | .last only => return [only]
  | .more first => return first :: (← collect (turn false))

def functionType (grammar : Grammar) : Parser Element := do
  let binder ← grammar.optBinder
  discard (optKeyword "unsafe")
  optAbi
  keyword "fn"
  groupThen .parenthesis grammar.functionTypeParams fun params => do
    let result ← grammar.returnType false
    return .plain .functionType (binder ++ params ++ result)

inductive ParenContent where
  | tuple (elements : List Element)
  | lifetimes (object : Element)
  | relaxed (bound : Element)
  | single (type : Element)

def parenContent (grammar : Grammar) : Parser ParenContent := do
  let tokens ← ahead
  if tokens.isEmpty then return .tuple []
  else if tokens.lifetime then return .lifetimes (← grammar.traitObject)
  else if tokens.punct "?" then return .relaxed (← grammar.traitBound false).element
  else
    let first ← grammar.type
    if ← peekPunct "," then
      punct ","
      return .tuple (first :: (← commaList grammar.type))
    else return .single first

def parenthesizedType (grammar : Grammar) (plus : Bool) : Parser Element :=
  groupThen .parenthesis grammar.parenContent fun
  | .tuple elements => return .plain .tupleType elements
  | .lifetimes object => return .plain .parenType [object]
  | .relaxed bound => do
    let others ← grammar.moreBounds
    return .plain (.traitObjectType others.isEmpty) (bound :: others)
  | .single first => do
    let paren := Element.plain .parenType [first]
    unless plus && (← peekPunct "+") do return paren
    match first.construct with
    | .pathType .single | .pathType .compound | .traitObjectType true =>
      return .plain (.traitObjectType false) (first.parts ++ (← grammar.moreBounds))
    | _ => return paren

def pathLedType (grammar : Grammar) (plus : Bool) (binder : List Element) : Parser Element := do
  let (self, path) ← grammar.qualifiedPath false
  if let some self := self then
    return .named (.pathType .qualified) path.name [self, path.element]
  if opensMacroCall path (← ahead) then
    discard macroCall
    return .plain .macroType [path.element]
  if !binder.isEmpty || (plus && (← peekPunct "+")) then
    let first := Element.plain .bound (binder ++ [path.element])
    let lone := !(plus && (← peekPunct "+"))
    let others ←
      if plus then
        collect do
          unless ← optPunct "+" do return .stop
          let tokens ← ahead
          if tokens.anyWord || tokens.punct "::" || tokens.punct "?" || tokens.lifetime ||
              tokens.group .parenthesis then
            return .more (← grammar.bound false false).element
          else return .stop
      else pure []
    return .plain (.traitObjectType lone) (first :: others)
  return .named (.pathType path.shape) path.name [path.element]

def builtinForm : Parser Element := do
  keyword "builtin"
  punct "#"
  discard identifier
  skipGroup .parenthesis
  return .opaqueText

def opensBuiltinForm (tokens : Tokens) : Bool :=
  tokens.keyword "builtin" && (tokens.after 1 : Tokens).punct "#"

def pointerType (grammar : Grammar) : Parser Element := do
  punct "*"
  unless ← optKeyword "const" do
    unless ← optKeyword "mut" do unmet [.keyword "const", .keyword "mut"]
  return .plain .pointerType [← grammar (.type false)]

def referenceType (grammar : Grammar) : Parser Element := do
  punct "&"
  discard optLifetime
  discard (optKeyword "mut")
  return .plain .referenceType [← grammar (.type false)]

def bracketedType (grammar : Grammar) : Parser Element :=
  group .bracket do
    let element ← grammar.type
    if ← optPunct ";" then return .plain .arrayType [element, ← grammar.expression]
    else return .plain .sliceType [element]

def implTraitType (grammar : Grammar) (plus : Bool) : Parser Element := do
  let start ← position
  keyword "impl"
  let bounds ← boundsWithTrait start "at least one trait must be specified"
    (← grammar.bounds plus true true)
  return .plain .implTraitType bounds

def dynType (grammar : Grammar) (plus : Bool) : Parser Element := do
  let start ← position
  keyword "dyn"
  let starred ← optPunct "*"
  let bounds ← grammar.traitObjectBounds start plus
  return if starred then .opaqueText else .plain (.traitObjectType false) bounds

def afterBinder : List Expectation := [.identifier, .keyword "fn", .keyword "unsafe",
  .keyword "extern", .keyword "super", .keyword "self", .keyword "Self", .keyword "crate"]

def typeStarts : List Expectation := [.keyword "for", .group .parenthesis, .keyword "fn",
  .keyword "unsafe", .keyword "extern", .identifier, .punct "::", .punct "<", .keyword "dyn",
  .group .bracket, .punct "*", .punct "&", .punct "!", .keyword "impl", .keyword "_", .lifetime]

/-- Reads a type; `plus` tells whether it may be several bounds. -/
def readType (grammar : Grammar) (plus : Bool) : Parser Element := do
  let binder ← grammar.optBinder
  let tokens ← ahead
  unless binder.isEmpty do
    unless afterBinder.any (·.holds tokens) do unmet afterBinder
  if tokens.group .parenthesis then grammar.parenthesizedType plus
  else if tokens.keyword "fn" || tokens.keyword "unsafe" || tokens.keyword "extern" then
    let type ← grammar.functionType
    return { type with parts := binder ++ type.parts }
  else if opensBuiltinForm tokens then builtinForm
  else if tokens.identifier || isPathWord tokens || tokens.punct "::" || tokens.punct "<" then
    grammar.pathLedType plus binder
  else if tokens.keyword "dyn" then grammar.dynType plus
  else if tokens.group .bracket then grammar.bracketedType
  else if tokens.punct "*" then grammar.pointerType
  else if tokens.punct "&" then grammar.referenceType
  else if tokens.punct "!" && !tokens.punct "=" then
    punct "!"
    return .plain .neverType []
  else if tokens.keyword "impl" then grammar.implTraitType plus
  else if tokens.keyword "_" then
    discard anyWord
    return .plain .inferType []
  else if tokens.lifetime then grammar.traitObject
  else unmet typeStarts

end KindDispatch.Source.Grammar
