import KindDispatch.Source.Grammar.Rule

/-!
# Paths, generic arguments and bounds

A path is a sequence of segments, each of which may have generic arguments.  In types the arguments
follow a segment at once, in expressions they follow `::`.  Arguments in parentheses are read in
bounds only.
-/

namespace KindDispatch.Source

structure Segment where
  name : Name
  arguments : Option Element

structure Path where
  /-- Whether it starts with `::`. -/
  rooted : Bool
  segments : List Segment

namespace Path

def name (path : Path) : Option Name := path.segments.getLast?.map Segment.name

def element (path : Path) : Element :=
  .named .path path.name (path.segments.filterMap Segment.arguments)

def ofName (name : Name) : Path := ⟨false, [⟨name, none⟩]⟩

def isBare (path : Path) : Bool := path.segments.all (·.arguments.isNone)

def endsBare (path : Path) : Bool :=
  path.segments.getLast?.all fun segment => segment.arguments.all (·.parts.isEmpty)

def shape (path : Path) : PathShape :=
  if path.rooted || path.segments.length ≠ 1 then .compound else .single

def withLastArguments (path : Path) (arguments : Element) : Path :=
  match path.segments.getLast? with
  | some segment =>
    { path with segments :=
        path.segments.dropLast ++ [{ segment with arguments := some arguments }] }
  | none => path

end Path

inductive BoundForm where
  | trait
  | lifetime
  | capture
  | opaqueText
deriving DecidableEq, Repr

structure Bound where
  form : BoundForm
  element : Element

namespace Grammar

open Source.Parser

def pathWords : List String := ["super", "self", "Self", "crate"]

def isPathWord (tokens : Tokens) : Bool := pathWords.any tokens.keyword

def startsBareSegment (tokens : Tokens) : Bool := tokens.identifier || isPathWord tokens

def barePath : Parser Path := do
  let rooted ← optPunct "::"
  let first ← if startsBareSegment (← ahead) then anyWord else identifier
  let others ← collectWhile (·.punct "::") do
    punct "::"
    if startsBareSegment (← ahead) then return (⟨← anyWord, none⟩ : Segment)
    else fail "expected path segment after `::`"
  return ⟨rooted, ⟨first, none⟩ :: others⟩

/-! ## Attributes -/

def attributeValue (grammar : Grammar) : Parser Element := do
  let tokens ← ahead
  match tokens.literal? with
  | some (_, []) =>
    discard literal
    return .plain .literalExpr []
  | _ =>
    if tokens.punct "#" && (tokens.after 1 : Tokens).group .bracket then
      fail "unexpected attribute inside of attribute"
    else grammar.expression

def attributeBody (grammar : Grammar) : Parser Element := do
  let path : Path ←
    if ← peekKeyword "unsafe" then pure (.ofName (← anyWord)) else barePath
  let tokens ← ahead
  if tokens.group .parenthesis || tokens.group .bracket || tokens.group .brace then
    discard anyGroup
    return .named .attr path.name []
  else if tokens.punct "=" && !tokens.punct "==" && !tokens.punct "=>" then
    punct "="
    return .named .attr path.name [← grammar.attributeValue]
  else return .named .attr path.name []

def outerAttribute (grammar : Grammar) : Parser Element := do
  punct "#"
  group .bracket grammar.attributeBody

def outerAttributes (grammar : Grammar) : Parser (List Element) :=
  collectWhile (·.punct "#") grammar.outerAttribute

def innerAttributes (grammar : Grammar) : Parser (List Element) :=
  collectWhile (fun tokens => tokens.punct "#" && (tokens.after 1 : Tokens).punct "!") do
    punct "#"
    punct "!"
    group .bracket grammar.attributeBody

/-! ## Types around paths -/

def returnType (grammar : Grammar) (plus : Bool) : Parser (List Element) := do
  if ← optPunct "->" then return [← grammar (.type plus)] else return []

def parenArguments (grammar : Grammar) : Parser Element := do
  let inputs ← group .parenthesis (commaList grammar.type)
  return .plain .arguments (inputs ++ (← grammar.returnType false))

def attributedBlock (grammar : Grammar) : Parser (List Element × Element) :=
  group .brace do
    let attributes ← grammar.innerAttributes
    return (attributes, ← grammar .statements)

def constArgument (grammar : Grammar) : Parser Element := do
  let tokens ← ahead
  if tokens.literal then
    discard literal
    return .plain .literalExpr []
  else if tokens.identifier then
    let name ← identifier
    return .named .pathExpr name [(Path.ofName name).element]
  else if tokens.group .brace then
    let (attributes, block) ← grammar.attributedBlock
    return ⟨.blockExpr, none, attributes, [block]⟩
  else unmet []

/-! ## Binders, bounds and paths -/

def binder (grammar : Grammar) : Parser Element := do
  keyword "for"
  punct "<"
  let params ← separated (·.punct ">") "," (grammar .quantified)
  punct ">"
  return .plain .binder params

def optBinder (grammar : Grammar) : Parser (List Element) := do
  if ← peekKeyword "for" then return [← grammar.binder] else return []

def capture : Parser Unit := do
  keyword "use"
  punct "<"
  discard <| collect (α := Unit) do
    let tokens ← ahead
    if tokens.lifetime then lifetime
    else if tokens.identifier || tokens.keyword "Self" then discard anyWord
    else if tokens.punct ">" then return .stop
    else unmet [.lifetime, .identifier, .punct ">"]
    let tokens ← ahead
    if tokens.punct "," then punct ","; return .more ()
    else if tokens.punct ">" then return .last ()
    else unmet [.punct ",", .punct ">"]
  punct ">"

/-- A segment of a path; in an expression its arguments follow `::`. -/
def segment (grammar : Grammar) (inExpression : Bool) : Parser Segment := do
  if ["super", "self", "crate", "try"].any (← ahead).keyword then return ⟨← anyWord, none⟩
  let name ← if ← peekKeyword "Self" then anyWord else identifier
  let tokens ← ahead
  if (!inExpression && tokens.punct "<" && !tokens.punct "<=" && !tokens.punct "<<=") ||
      (tokens.punct "::" && (tokens.after 2 : Tokens).punct "<") then
    return ⟨name, some (← grammar .arguments)⟩
  else return ⟨name, none⟩

/-- A path; it ends before `::` and a parenthesis. -/
def path (grammar : Grammar) (inExpression : Bool) : Parser Path := do
  let rooted ← optPunct "::"
  let first ← grammar.segment inExpression
  let others ← collectWhile
    (fun tokens => tokens.punct "::" && !(tokens.after 2 : Tokens).group .parenthesis) do
      punct "::"
      grammar.segment inExpression
  return ⟨rooted, first :: others⟩

def traitBound (grammar : Grammar) (consts : Bool) : Parser Bound := do
  let outer ← grammar.optBinder
  let start ← position
  let tokens ← ahead
  let conditional := tokens.group .bracket
  let unconditional := tokens.keyword "const"
  if conditional then
    group .bracket (keyword "const")
    unless consts do raise (.ofPosition start "`[const]` is not allowed here")
  else if unconditional then
    keyword "const"
    unless consts do raise (.ofPosition start "`const` is not allowed here")
  let mark ← position
  let relaxed ← optPunct "?"
  let binder ← if outer.isEmpty && relaxed then grammar.optBinder else pure outer
  let path ← grammar.path false
  let tokens ← ahead
  let path ←
    if path.endsBare && (tokens.group .parenthesis ||
        (tokens.punct "::" && (tokens.after 2 : Tokens).group .parenthesis)) then
      discard (optPunct "::")
      pure (path.withLastArguments (← grammar.parenArguments))
    else pure path
  if relaxed && !binder.isEmpty then
    raise (.ofPosition mark "`for<...>` binder not allowed with `?` trait polarity modifier")
  if conditional || unconditional then return ⟨.opaqueText, .opaqueText⟩
  else return ⟨.trait, .plain .bound (binder ++ [path.element])⟩

/-- One bound; `captures` and `consts` tell whether two special forms are allowed. -/
def bound (grammar : Grammar) (captures consts : Bool) : Parser Bound := do
  let tokens ← ahead
  if tokens.lifetime then
    lifetime
    return ⟨.lifetime, .plain .bound []⟩
  else if tokens.keyword "use" then
    let start ← position
    capture
    if captures then return ⟨.capture, .plain .bound []⟩
    else raise (.ofPosition start "`use<...>` precise capturing syntax is not allowed here")
  else if tokens.group .parenthesis then
    group .parenthesis (grammar.traitBound consts)
  else grammar.traitBound consts

def genericArgument (grammar : Grammar) : Parser Element := do
  let tokens ← ahead
  if tokens.lifetime && !(tokens.after 1 : Tokens).punct "+" then
    lifetime
    return .plain .argument []
  if tokens.literal || tokens.group .brace then
    return .plain .argument [← grammar.constArgument]
  let type ← grammar.type
  if type.construct ≠ .pathType .single then return .plain .argument [type]
  if ← optPunct "=" then
    let tokens ← ahead
    if tokens.literal || tokens.group .brace then
      return .plain .argument (type.parts ++ [← grammar.constArgument])
    else return .plain .argument (type.parts ++ [← grammar.type])
  else if ← optPunct ":" then
    let bounds ← joined (fun tokens => tokens.punct "," || tokens.punct ">") "+"
      (grammar.bound false true)
    return .plain .argument (type.parts ++ bounds.map Bound.element)
  else return .plain .argument [type]

def angleArguments (grammar : Grammar) : Parser Element := do
  discard (optPunct "::")
  punct "<"
  let arguments ← separated (·.punct ">") "," grammar.genericArgument
  punct ">"
  return .plain .arguments arguments

/-- Bounds with `+` between them, a single one if `plus` does not hold. -/
def bounds (grammar : Grammar) (plus captures consts : Bool) : Parser (List Bound) :=
  collect do
    let bound ← grammar.bound captures consts
    unless plus && (← peekPunct "+") do return .last bound
    punct "+"
    let tokens ← ahead
    if tokens.anyWord || tokens.punct "::" || tokens.punct "?" || tokens.lifetime ||
        tokens.group .parenthesis ||
        (consts && (tokens.group .bracket || tokens.keyword "const")) then
      return .more bound
    else return .last bound

/-- A path that may start with a type in angle brackets, which comes first in the answer. -/
def qualifiedPath (grammar : Grammar) (inExpression : Bool) :
    Parser (Option Element × Path) := do
  unless ← peekPunct "<" do return (none, ← grammar.path inExpression)
  punct "<"
  let self ← grammar.type
  let trait ← if ← optKeyword "as" then pure (some (← grammar.path false)) else pure none
  punct ">"
  punct "::"
  let first ← grammar.segment inExpression
  let others ← collectWhile (·.punct "::") do
    punct "::"
    grammar.segment inExpression
  match trait with
  | some path => return (some self, { path with segments := path.segments ++ first :: others })
  | none => return (some self, ⟨true, first :: others⟩)

end Grammar

end KindDispatch.Source
