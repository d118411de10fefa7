import KindDispatch.Kind
import KindDispatch.Source.Position

/-!
# Syntax trees

A syntax tree is made of elements; each is an instance of one `Construct` of the language and lists
its attributes and its other parts in the order they are written, except that the generic parameters
of a declaration come together with its where clause.

`Construct.kind?` says which constructs have a node kind of their own.  The others only hold their
parts together.
-/

namespace KindDispatch.Source

/-- How much of a path type there is besides its last segment. -/
inductive PathShape where
  /-- One segment and nothing else. -/
  | single
  /-- Several segments, or one behind `::`. -/
  | compound
  /-- Starts with a type in angle brackets. -/
  | qualified
deriving DecidableEq, Repr, Inhabited

inductive Construct where
  -- Items
  | functionItem | structItem | enumItem | unionItem | traitItem | traitAlias | implItem
  | moduleItem | useItem | constItem | staticItem | typeItem | macroItem | externCrate
  | foreignBlock
  /-- Something that is read but not taken apart. -/
  | opaqueText
  -- Members of items
  | method | associatedConst | associatedType | implMacro
  | traitMethod | traitConst | traitType | traitMacro
  | foreignFunction | foreignStatic | foreignType | foreignMacro
  | field | variant
  -- Parts of declarations
  | attr | signature | receiver | parameter | variadic | generics | typeParam
  | lifetimeParam | constParam | whereClause | predicate | binder | bound | path | arguments
  | argument | fields
  -- Statements
  | letStatement | macroStatement | block
  -- Expressions
  | arrayExpr | assignExpr | asyncExpr | awaitExpr | binaryExpr (comparison : Bool) | blockExpr
  | breakExpr | callExpr | castExpr | closureExpr | constExpr | continueExpr | fieldExpr
  | forExpr | ifExpr | indexExpr | inferExpr | letExpr | literalExpr | loopExpr
  | macroExpr (braced : Bool) | matchExpr | matchArm | methodCallExpr | parenExpr | pathExpr
  /-- A range, with the place of its dots and whether it has both ends. -/
  | rangeExpr (dots : Position) (closed : Bool)
  | rawAddressExpr | referenceExpr | repeatExpr | returnExpr | structExpr | fieldValue | tryExpr
  | tryBlockExpr | tupleExpr | unaryExpr | unsafeExpr | whileExpr | yieldExpr
  -- Patterns
  | identPattern | structPattern | fieldPattern | tupleStructPattern | tuplePattern
  | wildcardPattern | orPattern | parenPattern | referencePattern | slicePattern | restPattern
  | typedPattern
  -- Types
  | pathType (shape : PathShape) | referenceType | tupleType | sliceType | arrayType
  | functionType | implTraitType
  /-- A trait object; `lone` if it is written as one bound without `dyn`. -/
  | traitObjectType (lone : Bool)
  | pointerType | parenType | neverType | inferType | macroType
deriving DecidableEq, Repr, Inhabited

def Construct.kind? : Construct → Option Kind
  | functionItem => some .function
  | structItem => some .struct
  | enumItem => some .enum
  | unionItem => some .union
  | traitItem => some .trait
  | implItem => some .impl
  | moduleItem => some .moduleItem
  | useItem => some .useDecl
  | constItem => some .const
  | staticItem => some .static
  | typeItem => some .typeAlias
  | macroItem => some .macroItem
  | externCrate => some .externCrate
  | foreignBlock => some .foreignMod
  | method => some .method
  | associatedConst => some .assocConst
  | associatedType => some .assocType
  | traitMethod => some .traitMethod
  | field => some .field
  | variant => some .variant
  | attr => some .attr
  | typeParam => some .typeParam
  | letStatement => some .letStmt
  | macroStatement => some .macroStmt
  | arrayExpr => some .array
  | assignExpr => some .assign
  | asyncExpr => some .asyncBlock
  | awaitExpr => some .await
  | binaryExpr _ => some .binary
  | blockExpr => some .block
  | breakExpr => some .breakExpr
  | callExpr => some .call
  | castExpr => some .cast
  | closureExpr => some .closure
  | continueExpr => some .continueExpr
  | fieldExpr => some .fieldAccess
  | forExpr => some .forLoop
  | ifExpr => some .ifExpr
  | indexExpr => some .index
  | letExpr => some .letGuard
  | literalExpr => some .literal
  | loopExpr => some .loop
  | macroExpr _ => some .macroCall
  | matchExpr => some .matchExpr
  | matchArm => some .matchArm
  | methodCallExpr => some .methodCall
  | parenExpr => some .paren
  | pathExpr => some .path
  | rangeExpr .. => some .range
  | referenceExpr => some .reference
  | repeatExpr => some .repetition
  | returnExpr => some .returnExpr
  | structExpr => some .structLiteral
  | tryExpr => some .tryExpr
  | tupleExpr => some .tuple
  | unaryExpr => some .unary
  | unsafeExpr => some .unsafeBlock
  | whileExpr => some .whileLoop
  | inferExpr | tryBlockExpr | yieldExpr => some .other
  | identPattern => some .bindingPattern
  | structPattern => some .structPattern
  | tupleStructPattern => some .tupleStructPattern
  | tuplePattern => some .tuplePattern
  | wildcardPattern => some .wildcardPattern
  | orPattern => some .orPattern
  | pathType _ => some .typePath
  | referenceType => some .typeReference
  | tupleType => some .typeTuple
  | sliceType => some .typeSlice
  | arrayType => some .typeArray
  | functionType => some .typeFn
  | implTraitType => some .typeImplTrait
  | traitObjectType _ => some .typeTraitObject
  | opaqueText | traitAlias | implMacro | traitConst | traitType | traitMacro | foreignFunction
  | foreignStatic | foreignType | foreignMacro | signature | receiver | parameter | variadic
  | generics | lifetimeParam | constParam | whereClause | predicate | binder | bound | path
  | arguments | argument | fields | block | constExpr | rawAddressExpr | fieldValue | fieldPattern
  | parenPattern | referencePattern | slicePattern | restPattern | typedPattern | pointerType | parenType
  | neverType | inferType | macroType => none

structure Name where
  text : String
  line : Nat
deriving DecidableEq, Repr, Inhabited

structure Element where
  construct : Construct
  /-- The identifier that names the element. -/
  name : Option Name
  attributes : List Element
  parts : List Element
deriving Repr, Inhabited

namespace Element

def plain (construct : Construct) (parts : List Element) : Element := ⟨construct, none, [], parts⟩

def named (construct : Construct) (name : Option Name) (parts : List Element) : Element :=
  ⟨construct, name, [], parts⟩

/-- Something that is read but not taken apart. -/
def opaqueText : Element := plain .opaqueText []

def isOpaque (element : Element) : Bool := element.construct = .opaqueText

/-- Puts attributes in front of those of an element; text that is not taken apart has none. -/
def withAttributes (attributes : List Element) (element : Element) : Element :=
  if element.isOpaque then element
  else { element with attributes := attributes ++ element.attributes }

end Element

structure SourceFile where
  attributes : List Element
  items : List Element
deriving Repr, Inhabited

end KindDispatch.Source
