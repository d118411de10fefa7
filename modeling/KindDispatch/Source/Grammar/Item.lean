import KindDispatch.Source.Grammar.Generics
import KindDispatch.Source.Grammar.Pattern

/-!
# Items

Declarations, alone and as members of traits, implementations and foreign blocks.
-/

namespace KindDispatch.Source.Grammar

open Source.Parser

def pastKeyword (tokens : Tokens) (word : String) : Tokens :=
  if tokens.keyword word then tokens.after 1 else tokens

def opensSignature (safe : Bool) (tokens : Tokens) : Bool :=
  let tokens := pastKeyword (pastKeyword tokens "const") "async"
  let tokens :=
    if safe && tokens.keyword "safe" then tokens.after 1 else pastKeyword tokens "unsafe"
  let tokens : Tokens :=
    if tokens.keyword "extern" then
      let behind : Tokens := tokens.after 1
      if behind.stringLiteral then behind.after 1 else behind
    else tokens
  tokens.keyword "fn"

def visibility : Parser Bool := do
  unless ← optKeyword "pub" do return false
  match ← ahead with
  | .group .parenthesis _ content _ :: _ =>
    if ["crate", "self", "super"].any (Tokens.keyword content) then
      if content.length = 1 then skip 1
    else if Tokens.keyword content "in" then
      group .parenthesis do
        keyword "in"
        discard barePath
    return true
  | _ => return true

/-! ## Functions -/

def opensReceiver (tokens : Tokens) : Bool :=
  let tokens : Tokens :=
    if tokens.punct "&" then
      let behind : Tokens := tokens.after 1
      if behind.lifetime then behind.after 1 else behind
    else tokens
  let tokens := pastKeyword tokens "mut"
  tokens.keyword "self" && !(tokens.after 1 : Tokens).punct "::"

def receiver (grammar : Grammar) : Parser (Element × Position) := do
  let byRef ← optPunct "&"
  if byRef then discard optLifetime
  discard (optKeyword "mut")
  let start ← position
  let name ← (do keyword "self"; return (⟨"Self", start.line⟩ : Name))
  let own : Element := .named (.pathType .single) name [(Path.ofName name).element]
  if byRef then return (.plain .referenceType [own], start)
  else if ← optPunct ":" then return (← grammar.type, start)
  else return (own, start)

/-- What is known of the parameters of a function so far, the last one first. -/
structure Params where
  elements : List Element
  hasReceiver : Bool

def param (grammar : Grammar) (params : Params) : Parser (Turn Params) := do
  if ← atEnd then return .stop
  let attributes ← grammar.outerAttributes
  let finish (parts : List Element) : Parser (Turn Params) := do
    unless ← atEnd do punct ","
    return .last { params with elements := ⟨.variadic, none, attributes, parts⟩ :: params.elements }
  let next (element : Element) (hasReceiver : Bool) : Parser (Turn Params) := do
    unless ← atEnd do punct ","
    return .more ⟨element :: params.elements, hasReceiver⟩
  if ← optPunct "..." then return ← finish []
  let tokens ← ahead
  if opensReceiver tokens then
    let (type, start) ← grammar.receiver
    if params.hasReceiver then
      raise (.ofPosition start "unexpected second method receiver")
    else if !params.elements.isEmpty then
      raise (.ofPosition start "unexpected method receiver")
    else next ⟨.receiver, none, attributes, [type]⟩ true
  else if tokens.identifier && (tokens.after 1 : Tokens).punct "<" then
    let type ← grammar.type
    next ⟨.parameter, none, attributes, [.plain .wildcardPattern [], type]⟩ params.hasReceiver
  else
    let pattern ← grammar .pattern
    punct ":"
    if ← optPunct "..." then finish [pattern]
    else
      let type ← grammar.type
      next ⟨.parameter, none, attributes, [pattern, type]⟩ params.hasReceiver

structure Signature where
  name : Name
  /-- Whether it is marked as safe to call. -/
  safe : Bool
  element : Element

def signature (grammar : Grammar) (allowSafe : Bool) : Parser Signature := do
  discard (optKeyword "const")
  discard (optKeyword "async")
  let unsafeMark ← optKeyword "unsafe"
  let safe ← if allowSafe && !unsafeMark then optKeyword "safe" else pure false
  optAbi
  keyword "fn"
  let name ← identifier
  let generics ← grammar.genericParams
  groupThen .parenthesis (loop grammar.param ⟨[], false⟩) fun params => do
    let result ← grammar.returnType true
    let clause ← grammar.whereClause
    return ⟨name, safe, .named .signature name
      (genericsElement generics clause :: params.elements.reverse ++ result)⟩

def functionBody (grammar : Grammar) : Parser (List Element × Element) := grammar.attributedBlock

/-! ## Types, constants and statics -/

structure TypeDeclaration where
  visible : Bool
  name : Name
  generics : Element
  bounds : Option (List Element)
  definition : Option Element

inductive ClausePlace where
  | beforeDefinition
  | afterDefinition
  | either
deriving DecidableEq

def typeDeclaration (grammar : Grammar) (allowDefault : Bool) (place : ClausePlace) :
    Parser TypeDeclaration := do
  let visible ← visibility
  if allowDefault then discard (optKeyword "default")
  keyword "type"
  let name ← identifier
  let params ← grammar.genericParams
  let bounds ←
    if ← optPunct ":" then
      let bounds ← separated
        (fun tokens => tokens.keyword "where" || tokens.punct "=" || tokens.punct ";") "+"
        (grammar.bound false true)
      pure (some (bounds.map Bound.element))
    else pure none
  let early ← if place ≠ .afterDefinition then grammar.whereClause else pure none
  let definition ← if ← optPunct "=" then some <$> grammar.type else pure none
  let clause ←
    if place ≠ .beforeDefinition && early.isNone then grammar.whereClause else pure early
  punct ";"
  return ⟨visible, name, genericsElement params clause, bounds, definition⟩

/-- An alias for a type, given the construct it makes; one that is not complete is not taken
apart. -/
def aliasElement (construct : Construct) (declaration : TypeDeclaration) : Element :=
  match declaration.bounds, declaration.definition with
  | none, some type => .named construct declaration.name [declaration.generics, type]
  | _, _ => .opaqueText

structure ConstDeclaration where
  name : Name
  generic : Bool
  type : Element
  value : Option Element

def constDeclaration (grammar : Grammar) : Parser ConstDeclaration := do
  let tokens ← ahead
  unless tokens.identifier || tokens.keyword "_" do unmet [.identifier, .keyword "_"]
  let name ← anyWord
  let params ← grammar.genericParams
  punct ":"
  let type ← grammar.type
  let value ← if ← optPunct "=" then some <$> grammar.expression else pure none
  let clause ← grammar.whereClause
  punct ";"
  return ⟨name, params.isSome || clause.isSome, type, value⟩

def constElement (construct : Construct) (declaration : ConstDeclaration) : Element :=
  match declaration.generic, declaration.value with
  | false, some value => .named construct declaration.name [declaration.type, value]
  | _, _ => .opaqueText

def staticItem (grammar : Grammar) : Parser Element := do
  discard visibility
  keyword "static"
  discard (optKeyword "mut")
  let name ← identifier
  if ← optPunct "=" then
    discard grammar.expression
    punct ";"
    return .opaqueText
  punct ":"
  let type ← grammar.type
  if ← optPunct ";" then return .opaqueText
  punct "="
  let value ← grammar.expression
  punct ";"
  return .named .staticItem name [type, value]

/-! ## Structs, enums and unions -/

def namedField (grammar : Grammar) : Parser Element := do
  let attributes ← grammar.outerAttributes
  discard visibility
  let unnamed ← peekKeyword "_"
  let name ← if unnamed then anyWord else identifier
  punct ":"
  let tokens ← ahead
  if unnamed && (tokens.keyword "struct" ||
      (tokens.keyword "union" && (tokens.after 1 : Tokens).group .brace)) then
    discard anyWord
    discard (grammar .fields)
    return ⟨.field, some name, attributes, [.opaqueText]⟩
  else return ⟨.field, some name, attributes, [← grammar.type]⟩

def namedFields (grammar : Grammar) : Parser Element := do
  return .plain .fields (← group .brace (commaList grammar.namedField))

def tupleFields (grammar : Grammar) : Parser Element := do
  let fields ← group .parenthesis <| commaList do
    let attributes ← grammar.outerAttributes
    discard visibility
    return (⟨.field, none, attributes, [← grammar.type]⟩ : Element)
  return .plain .fields fields

def structBody (grammar : Grammar) : Parser (Option Element × Element) := do
  let tokens ← ahead
  if tokens.keyword "where" then
    let clause ← grammar.whereClause
    if ← peekGroup .brace then return (clause, ← grammar.namedFields)
    else if ← optPunct ";" then return (clause, .plain .fields [])
    else unmet [.group .brace, .punct ";"]
  else if tokens.group .parenthesis then
    let fields ← grammar.tupleFields
    let tokens ← ahead
    if tokens.keyword "where" then
      let clause ← grammar.whereClause
      if ← optPunct ";" then return (clause, fields) else unmet [.punct ";"]
    else if ← optPunct ";" then return (none, fields)
    else unmet [.keyword "where", .punct ";"]
  else if tokens.group .brace then return (none, ← grammar.namedFields)
  else if ← optPunct ";" then return (none, .plain .fields [])
  else unmet [.keyword "where", .group .parenthesis, .group .brace, .punct ";"]

def structItem (grammar : Grammar) : Parser Element := do
  discard visibility
  keyword "struct"
  let name ← identifier
  let params ← grammar.genericParams
  let (clause, fields) ← grammar.structBody
  return .named .structItem name [genericsElement params clause, fields]

def variant (grammar : Grammar) : Parser Element := do
  let attributes ← grammar.outerAttributes
  discard visibility
  let name ← identifier
  let tokens ← ahead
  let fields ←
    if tokens.group .brace then pure [← grammar.namedFields]
    else if tokens.group .parenthesis then pure [← grammar.tupleFields]
    else pure []
  let value ← if ← optPunct "=" then pure [← grammar.expression] else pure []
  return ⟨.variant, some name, attributes, fields ++ value⟩

def enumItem (grammar : Grammar) : Parser Element := do
  discard visibility
  keyword "enum"
  let name ← identifier
  let params ← grammar.genericParams
  let clause ← grammar.whereClause
  let variants ← group .brace (commaList grammar.variant)
  return .named .enumItem name (genericsElement params clause :: variants)

def unionItem (grammar : Grammar) : Parser Element := do
  discard visibility
  keyword "union"
  let name ← identifier
  let params ← grammar.genericParams
  let clause ← grammar.whereClause
  let fields ← grammar.namedFields
  return .named .unionItem name [genericsElement params clause, fields]

/-! ## Macros, imports and modules -/

def macroStarts : List Expectation :=
  [.identifier, .keyword "self", .keyword "super", .keyword "crate", .punct "::"]

def macroMember (construct : Construct) : Parser Element := do
  let path ← barePath
  let delimiter ← macroCall
  unless delimiter = .brace do punct ";"
  return .named construct path.name [path.element]

def macroItem : Parser Element := do
  let path ← barePath
  punct "!"
  let tokens ← ahead
  let name ← if tokens.keyword "try" || tokens.identifier then some <$> anyWord else pure none
  let delimiter ← anyGroup
  unless delimiter = .brace do punct ";"
  return .named .macroItem (name.or path.name) [path.element]

def macroDefinition : Parser Element := do
  keyword "macro"
  discard identifier
  if ← peekGroup .parenthesis then
    skipGroup .parenthesis
    if ← peekGroup .brace then skipGroup .brace else unmet [.group .brace]
  else if ← peekGroup .brace then skipGroup .brace
  else unmet [.group .parenthesis, .group .brace]
  return .opaqueText

def externCrate : Parser Element := do
  discard visibility
  keyword "extern"
  keyword "crate"
  let name ← if ← peekKeyword "self" then anyWord else identifier
  if ← optKeyword "as" then
    discard (if ← peekKeyword "_" then anyWord else identifier)
  punct ";"
  return .named .externCrate name []

def useTreeStarts : List Expectation := [.identifier, .keyword "self", .keyword "super",
  .keyword "crate", .keyword "try", .punct "*", .group .brace]

/-- Reads one tree of an import.  A tree in braces that contains a path with `::` in front is not
taken apart. -/
def readUseTree (grammar : Grammar) (rooted : Bool) : Parser Element := do
  let tokens ← ahead
  if tokens.identifier || tokens.keyword "self" || tokens.keyword "super" ||
      tokens.keyword "crate" || tokens.keyword "try" then
    discard anyWord
    if ← optPunct "::" then grammar (.useTree false)
    else if ← optKeyword "as" then
      let tokens ← ahead
      if tokens.identifier || tokens.keyword "_" then
        discard anyWord
        return .plain .path []
      else fail "expected identifier or underscore"
    else return .plain .path []
  else if tokens.punct "*" then
    punct "*"
    return .plain .path []
  else if tokens.group .brace then
    let trees ← group .brace <| commaList do
      let atRoot ← if rooted then optPunct "::" else pure false
      let tree ← grammar (.useTree (rooted && !atRoot))
      return if atRoot then .opaqueText else tree
    return if trees.any Element.isOpaque then .opaqueText else .plain .path []
  else unmet useTreeStarts

def useItem (grammar : Grammar) : Parser Element := do
  discard visibility
  keyword "use"
  let leading ← optPunct "::"
  let tree ← grammar (.useTree (!leading))
  punct ";"
  return if tree.isOpaque then .opaqueText else .plain .useItem [tree]

def moduleItem (grammar : Grammar) : Parser Element := do
  discard visibility
  discard (optKeyword "unsafe")
  keyword "mod"
  let name ← if ← peekKeyword "try" then anyWord else identifier
  if ← optPunct ";" then return .named .moduleItem name []
  else if ← peekGroup .brace then
    group .brace do
      let attributes ← grammar.innerAttributes
      return ⟨.moduleItem, some name, attributes, ← untilEnd (grammar .item)⟩
  else unmet [.punct ";", .group .brace]

/-! ## Foreign blocks -/

def foreignFunction (grammar : Grammar) : Parser Element := do
  discard visibility
  let signature ← grammar.signature true
  if ← peekGroup .brace then
    discard grammar.attributedBlock
    return .opaqueText
  else
    punct ";"
    return if signature.safe then .opaqueText
      else .named .foreignFunction signature.name [signature.element]

def foreignStatic (grammar : Grammar) : Parser Element := do
  discard visibility
  let unsafeMark ← optKeyword "unsafe"
  let safe ← if unsafeMark then pure false else optKeyword "safe"
  keyword "static"
  discard (optKeyword "mut")
  let name ← identifier
  punct ":"
  let type ← grammar.type
  let hasValue ← optPunct "="
  if hasValue then discard grammar.expression
  punct ";"
  return if unsafeMark || safe || hasValue then .opaqueText
    else .named .foreignStatic name [type]

def foreignType (grammar : Grammar) : Parser Element := do
  let declaration ← grammar.typeDeclaration false .either
  return if declaration.bounds.isSome || declaration.definition.isSome then .opaqueText
    else .named .foreignType declaration.name [declaration.generics]

def foreignMember (grammar : Grammar) : Parser Element := do
  let attributes ← grammar.outerAttributes
  let (visible, behind) ← lookAhead visibility
  let tokens := behind.tokens
  let marked := tokens.keyword "unsafe" || tokens.keyword "safe"
  let element ←
    if tokens.keyword "fn" || opensSignature true tokens then grammar.foreignFunction
    else if tokens.keyword "static" ||
        (marked && (tokens.after 1 : Tokens).keyword "static") then
      grammar.foreignStatic
    else if tokens.keyword "type" then grammar.foreignType
    else if !visible && macroStarts.any (·.holds tokens) then macroMember .foreignMacro
    else raise (behind.unmet ([.keyword "fn", .keyword "static", .keyword "type"] ++
      if visible then [] else macroStarts))
  return element.withAttributes attributes

def foreignBlock (grammar : Grammar) : Parser Element := do
  discard (optKeyword "unsafe")
  abi
  group .brace do
    let attributes ← grammar.innerAttributes
    return ⟨.foreignBlock, none, attributes, ← untilEnd grammar.foreignMember⟩

/-! ## Traits -/

def traitFunction (grammar : Grammar) : Parser Element := do
  let signature ← grammar.signature false
  if ← peekGroup .brace then
    let (attributes, block) ← grammar.functionBody
    return ⟨.traitMethod, some signature.name, attributes, [signature.element, block]⟩
  else if ← optPunct ";" then
    return .named .traitMethod signature.name [signature.element]
  else unmet [.group .brace, .punct ";"]

def traitConst (grammar : Grammar) (behind : Tokens) : Parser Element := do
  if behind.identifier || behind.keyword "_" then
    keyword "const"
    let declaration ← grammar.constDeclaration
    if declaration.generic then return .opaqueText
    else
      let parts := declaration.type :: declaration.value.toList
      return .named .traitConst declaration.name parts
  else if behind.keyword "async" || behind.keyword "unsafe" || behind.keyword "extern" ||
      behind.keyword "fn" then
    grammar.traitFunction
  else
    keyword "const"
    unmet [.identifier, .keyword "_", .keyword "async", .keyword "unsafe", .keyword "extern",
      .keyword "fn"]

def traitType (grammar : Grammar) : Parser Element := do
  let declaration ← grammar.typeDeclaration false .afterDefinition
  if declaration.visible then return .opaqueText
  else return .named .traitType declaration.name (declaration.generics ::
    declaration.bounds.getD [] ++ declaration.definition.toList)

/-- A member of a trait; one with a visibility of its own is not taken apart. -/
def traitMember (grammar : Grammar) : Parser Element := do
  let attributes ← grammar.outerAttributes
  let visible ← visibility
  let default ← optKeyword "default"
  let tokens ← ahead
  let macros := !visible && !default
  let element ←
    if tokens.keyword "fn" || opensSignature false tokens then grammar.traitFunction
    else if tokens.keyword "const" then grammar.traitConst (tokens.after 1)
    else if tokens.keyword "type" then grammar.traitType
    else if macros && macroStarts.any (·.holds tokens) then macroMember .traitMacro
    else unmet ([.keyword "fn", .keyword "const", .keyword "type"] ++
      if macros then macroStarts else [])
  return if macros then element.withAttributes attributes else .opaqueText

def superBounds (grammar : Grammar) (stop : Tokens → Bool) (consts : Bool) :
    Parser (List Element) := do
  let bounds ← separated (fun tokens => tokens.keyword "where" || stop tokens) "+"
    (grammar.bound false consts)
  return bounds.map Bound.element

def traitRest (grammar : Grammar) (name : Name) (params : Option (List Element)) :
    Parser Element := do
  let bounds ←
    if ← optPunct ":" then grammar.superBounds (·.group .brace) true else pure []
  let clause ← grammar.whereClause
  group .brace do
    let attributes ← grammar.innerAttributes
    let members ← untilEnd grammar.traitMember
    return ⟨.traitItem, some name, attributes,
      genericsElement params clause :: bounds ++ members⟩

def traitItem (grammar : Grammar) : Parser Element := do
  discard visibility
  discard (optKeyword "unsafe")
  discard (optKeyword "auto")
  keyword "trait"
  let name ← identifier
  let params ← grammar.genericParams
  grammar.traitRest name params

def traitOrAlias (grammar : Grammar) : Parser Element := do
  discard visibility
  keyword "trait"
  let name ← identifier
  let params ← grammar.genericParams
  let tokens ← ahead
  if tokens.group .brace || tokens.punct ":" || tokens.keyword "where" then
    grammar.traitRest name params
  else if ← optPunct "=" then
    let bounds ← grammar.superBounds (·.punct ";") false
    let clause ← grammar.whereClause
    punct ";"
    return .named .traitAlias name (genericsElement params clause :: bounds)
  else unmet [.group .brace, .punct ":", .keyword "where", .punct "="]

/-! ## Implementations -/

def implFunction (grammar : Grammar) : Parser Element := do
  discard visibility
  discard (optKeyword "default")
  let signature ← grammar.signature false
  if ← optPunct ";" then return .opaqueText
  let (attributes, block) ← grammar.functionBody
  return ⟨.method, some signature.name, attributes, [signature.element, block]⟩

def implMember (grammar : Grammar) : Parser Element := do
  let attributes ← grammar.outerAttributes
  let (visible, behind) ← lookAhead visibility
  let default := behind.tokens.keyword "default" &&
    !(behind.tokens.after 1 : Tokens).punct "!"
  let behind := if default then { behind with tokens := behind.tokens.after 1 } else behind
  let tokens := behind.tokens
  let macros := !visible && !default
  let element ←
    if tokens.keyword "fn" || opensSignature false tokens then grammar.implFunction
    else if tokens.keyword "const" then
      discard visibility
      if default then keyword "default"
      keyword "const"
      pure (constElement .associatedConst (← grammar.constDeclaration))
    else if tokens.keyword "type" then
      pure (aliasElement .associatedType (← grammar.typeDeclaration true .afterDefinition))
    else if macros && macroStarts.any (·.holds tokens) then macroMember .implMacro
    else raise (behind.unmet ((if default then [] else [.keyword "default"]) ++
      [.keyword "fn", .keyword "const", .keyword "type"] ++ if macros then macroStarts else []))
  return element.withAttributes attributes

/-- What an implementation is for: the trait, if it is one of a trait, and the type.  An
implementation that has a trait which is not a path has no head.  Only one of a trait may be
negative, as told by the exclamation mark at `start`. -/
def implHead (grammar : Grammar) (start : Position) (negative : Bool) :
    Parser (Option (List Element × Element)) := do
  let first ← grammar.type
  if ← optKeyword "for" then
    let type ← grammar.type
    match first.construct with
    | .pathType .single | .pathType .compound => return some (first.parts, type)
    | _ => return none
  else if negative then raise (.ofPosition start "inherent impls cannot be negative")
  else return some ([], first)

def implName (type : Element) : Option Name :=
  match type.construct with
  | .pathType _ => type.name
  | _ => none

def implItem (grammar : Grammar) : Parser Element := do
  let visible ← visibility
  discard (optKeyword "default")
  discard (optKeyword "unsafe")
  keyword "impl"
  let params ←
    if opensGenericParams (← ahead) then grammar.genericParams else pure none
  let tokens ← ahead
  let constant := tokens.keyword "const" ||
    (tokens.punct "?" && (tokens.after 1 : Tokens).keyword "const")
  if constant then
    discard (optPunct "?")
    keyword "const"
  let tokens ← ahead
  let negative := tokens.punct "!" && !(tokens.after 1 : Tokens).group .brace
  let start ← position
  if negative then punct "!"
  let head ← grammar.implHead start negative
  let clause ← grammar.whereClause
  let (attributes, members) ← group .brace do
    let attributes ← grammar.innerAttributes
    return (attributes, ← untilEnd grammar.implMember)
  match visible || constant, head with
  | false, some (trait, type) =>
    return ⟨.implItem, implName type, attributes,
      genericsElement params clause :: trait ++ type :: members⟩
  | _, _ => return .opaqueText

/-! ## All items -/

def functionItem (grammar : Grammar) : Parser Element := do
  discard visibility
  let signature ← grammar.signature false
  if ← optPunct ";" then return .opaqueText
  let (attributes, block) ← grammar.functionBody
  return ⟨.functionItem, some signature.name, attributes, [signature.element, block]⟩

def itemStarts : List Expectation :=
  ["fn", "extern", "use", "static", "const", "unsafe", "mod", "type", "struct", "enum", "union",
    "trait", "auto", "impl", "default", "macro"].map Expectation.keyword

def externItem (grammar : Grammar) (behind : Input) : Parser Element := do
  let tokens := behind.tokens
  if tokens.keyword "crate" then externCrate
  else if tokens.group .brace then grammar.foreignBlock
  else if tokens.stringLiteral then
    let behind := { behind with tokens := tokens.after 1 }
    if behind.tokens.group .brace then grammar.foreignBlock
    else raise (behind.unmet [.group .brace])
  else raise (behind.unmet [.keyword "crate", .group .brace, .stringLiteral])

def unsafeItem (grammar : Grammar) (behind : Input) : Parser Element := do
  let tokens := behind.tokens
  if tokens.keyword "trait" ||
      (tokens.keyword "auto" && (tokens.after 1 : Tokens).keyword "trait") then
    grammar.traitItem
  else if tokens.keyword "impl" then grammar.implItem
  else if tokens.keyword "extern" then grammar.foreignBlock
  else if tokens.keyword "mod" then grammar.moduleItem
  else raise (behind.unmet
    [.keyword "trait", .keyword "auto", .keyword "impl", .keyword "extern", .keyword "mod"])

def bareItem (grammar : Grammar) : Parser Element := do
  let (visible, behind) ← lookAhead visibility
  let tokens := behind.tokens
  let second : Tokens := tokens.after 1
  let rest : Input := { behind with tokens := second }
  if tokens.keyword "fn" || opensSignature false tokens then grammar.functionItem
  else if tokens.keyword "extern" then grammar.externItem rest
  else if tokens.keyword "use" then grammar.useItem
  else if tokens.keyword "static" then grammar.staticItem
  else if tokens.keyword "const" then
    discard visibility
    keyword "const"
    return constElement .constItem (← grammar.constDeclaration)
  else if tokens.keyword "unsafe" then grammar.unsafeItem rest
  else if tokens.keyword "mod" then grammar.moduleItem
  else if tokens.keyword "type" then
    return aliasElement .typeItem (← grammar.typeDeclaration false .beforeDefinition)
  else if tokens.keyword "struct" then grammar.structItem
  else if tokens.keyword "enum" then grammar.enumItem
  else if tokens.keyword "union" && second.identifier then grammar.unionItem
  else if tokens.keyword "trait" then grammar.traitOrAlias
  else if tokens.keyword "auto" && second.keyword "trait" then grammar.traitItem
  else if tokens.keyword "impl" || (tokens.keyword "default" && !second.punct "!") then
    grammar.implItem
  else if tokens.keyword "macro" then
    discard visibility
    macroDefinition
  else if !visible && macroStarts.any (·.holds tokens) then macroItem
  else raise (behind.unmet (itemStarts ++ if visible then [] else macroStarts))

def readItem (grammar : Grammar) : Parser Element := do
  let attributes ← grammar.outerAttributes
  return (← grammar.bareItem).withAttributes attributes

end KindDispatch.Source.Grammar
