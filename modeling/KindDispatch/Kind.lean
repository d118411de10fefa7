/-!
# Node kinds

Every node of a forest carries one of a closed list of kinds.  A kind has an *ordinal*, its place in
`Kind.all`, and belongs to one *category*.  Ordinals are what dispatch tables and kind sets are
addressed by, so `Kind.all[k.ordinal]? = some k` is the one fact everything else relies on.
-/

namespace KindDispatch

/-- Coarse grouping of kinds, for declarations such as "every expression". -/
inductive Category where
  | item
  | statement
  | expression
  | pattern
  | typeExpr
  | other
deriving DecidableEq, Repr, Inhabited

namespace Category

def all : List Category := [item, statement, expression, pattern, typeExpr, other]

def label : Category → String
  | item => "item"
  | statement => "statement"
  | expression => "expression"
  | pattern => "pattern"
  | typeExpr => "type"
  | other => "other"

def ofLabel? (text : String) : Option Category := all.find? (·.label == text)

theorem ofLabel?_label (category : Category) : ofLabel? category.label = some category := by
  cases category <;> decide

end Category

/-- Concrete kind of a tree node; the order of the constructors is the order of the ordinals. -/
inductive Kind where
  | function | struct | enum | union | trait | impl | method | traitMethod | assocConst
  | assocType | moduleItem | useDecl | const | static | typeAlias | macroItem | externCrate
  | foreignMod | field | variant
  | letStmt | macroStmt
  | array | assign | asyncBlock | await | binary | block | breakExpr | call | cast | closure
  | continueExpr | fieldAccess | forLoop | ifExpr | index | letGuard | literal | loop | macroCall
  | matchExpr | matchArm | methodCall | paren | path | range | reference | repetition
  | returnExpr | structLiteral | tryExpr | tuple | unary | unsafeBlock | whileLoop
  | bindingPattern | structPattern | tupleStructPattern | tuplePattern | wildcardPattern
  | orPattern
  | typePath | typeReference | typeTuple | typeSlice | typeArray | typeFn | typeImplTrait
  | typeTraitObject
  | attr | typeParam | other
deriving DecidableEq, Repr, Inhabited, Hashable

namespace Kind

def all : List Kind := [
  function, struct, enum, union, trait, impl, method, traitMethod, assocConst, assocType,
  moduleItem, useDecl, const, static, typeAlias, macroItem, externCrate, foreignMod, field,
  variant,
  letStmt, macroStmt,
  array, assign, asyncBlock, await, binary, block, breakExpr, call, cast, closure, continueExpr,
  fieldAccess, forLoop, ifExpr, index, letGuard, literal, loop, macroCall, matchExpr, matchArm,
  methodCall, paren, path, range, reference, repetition, returnExpr, structLiteral, tryExpr,
  tuple, unary, unsafeBlock, whileLoop,
  bindingPattern, structPattern, tupleStructPattern, tuplePattern, wildcardPattern, orPattern,
  typePath, typeReference, typeTuple, typeSlice, typeArray, typeFn, typeImplTrait,
  typeTraitObject,
  attr, typeParam, other]

def count : Nat := 73

def ordinal (kind : Kind) : Nat := kind.ctorIdx

def ofOrdinal? (ordinal : Nat) : Option Kind := all[ordinal]?

def category : Kind → Category
  | function | struct | enum | union | trait | impl | method | traitMethod | assocConst
  | assocType | moduleItem | useDecl | const | static | typeAlias | macroItem | externCrate
  | foreignMod | field | variant => .item
  | letStmt | macroStmt => .statement
  | array | assign | asyncBlock | await | binary | block | breakExpr | call | cast | closure
  | continueExpr | fieldAccess | forLoop | ifExpr | index | letGuard | literal | loop | macroCall
  | matchExpr | matchArm | methodCall | paren | path | range | reference | repetition
  | returnExpr | structLiteral | tryExpr | tuple | unary | unsafeBlock | whileLoop => .expression
  | bindingPattern | structPattern | tupleStructPattern | tuplePattern | wildcardPattern
  | orPattern => .pattern
  | typePath | typeReference | typeTuple | typeSlice | typeArray | typeFn | typeImplTrait
  | typeTraitObject => .typeExpr
  | attr | typeParam | other => .other

def name : Kind → String
  | function => "Function"
  | struct => "Struct"
  | enum => "Enum"
  | union => "Union"
  | trait => "Trait"
  | impl => "Impl"
  | method => "Method"
  | traitMethod => "TraitMethod"
  | assocConst => "AssocConst"
  | assocType => "AssocType"
  | moduleItem => "Module"
  | useDecl => "Use"
  | const => "Const"
  | static => "Static"
  | typeAlias => "TypeAlias"
  | macroItem => "MacroItem"
  | externCrate => "ExternCrate"
  | foreignMod => "ForeignMod"
  | field => "Field"
  | variant => "Variant"
  | letStmt => "Let"
  | macroStmt => "MacroStmt"
  | array => "Array"
  | assign => "Assign"
  | asyncBlock => "Async"
  | await => "Await"
  | binary => "Binary"
  | block => "Block"
  | breakExpr => "Break"
  | call => "Call"
  | cast => "Cast"
  | closure => "Closure"
  | continueExpr => "Continue"
  | fieldAccess => "FieldAccess"
  | forLoop => "ForLoop"
  | ifExpr => "If"
  | index => "Index"
  | letGuard => "LetGuard"
  | literal => "Literal"
  | loop => "Loop"
  | macroCall => "MacroCall"
  | matchExpr => "Match"
  | matchArm => "MatchArm"
  | methodCall => "MethodCall"
  | paren => "Paren"
  | path => "Path"
  | range => "Range"
  | reference => "Reference"
  | repetition => "Repeat"
  | returnExpr => "Return"
  | structLiteral => "StructLiteral"
  | tryExpr => "Try"
  | tuple => "Tuple"
  | unary => "Unary"
  | unsafeBlock => "Unsafe"
  | whileLoop => "While"
  | bindingPattern => "BindingPattern"
  | structPattern => "StructPattern"
  | tupleStructPattern => "TupleStructPattern"
  | tuplePattern => "TuplePattern"
  | wildcardPattern => "WildcardPattern"
  | orPattern => "OrPattern"
  | typePath => "TypePath"
  | typeReference => "TypeReference"
  | typeTuple => "TypeTuple"
  | typeSlice => "TypeSlice"
  | typeArray => "TypeArray"
  | typeFn => "TypeFn"
  | typeImplTrait => "TypeImplTrait"
  | typeTraitObject => "TypeTraitObject"
  | attr => "Attribute"
  | typeParam => "TypeParam"
  | other => "Other"

def label : Kind → String
  | function => "fn"
  | struct => "struct"
  | enum => "enum"
  | union => "union"
  | trait => "trait"
  | impl => "impl"
  | method => "impl fn"
  | traitMethod => "trait fn"
  | assocConst => "impl const"
  | assocType => "impl type"
  | moduleItem => "mod"
  | useDecl => "use"
  | const => "const"
  | static => "static"
  | typeAlias => "type"
  | macroItem => "macro item"
  | externCrate => "extern crate"
  | foreignMod => "extern block"
  | field => "field"
  | variant => "variant"
  | letStmt => "let"
  | macroStmt => "macro stmt"
  | array => "array"
  | assign => "assign"
  | asyncBlock => "async"
  | await => "await"
  | binary => "binary"
  | block => "block"
  | breakExpr => "break"
  | call => "call"
  | cast => "cast"
  | closure => "closure"
  | continueExpr => "continue"
  | fieldAccess => "field access"
  | forLoop => "for"
  | ifExpr => "if"
  | index => "index"
  | letGuard => "let guard"
  | literal => "literal"
  | loop => "loop"
  | macroCall => "macro call"
  | matchExpr => "match"
  | matchArm => "match arm"
  | methodCall => "method call"
  | paren => "paren"
  | path => "path"
  | range => "range"
  | reference => "reference"
  | repetition => "repeat"
  | returnExpr => "return"
  | structLiteral => "struct literal"
  | tryExpr => "try"
  | tuple => "tuple"
  | unary => "unary"
  | unsafeBlock => "unsafe"
  | whileLoop => "while"
  | bindingPattern => "binding pattern"
  | structPattern => "struct pattern"
  | tupleStructPattern => "tuple struct pattern"
  | tuplePattern => "tuple pattern"
  | wildcardPattern => "wildcard pattern"
  | orPattern => "or pattern"
  | typePath => "type path"
  | typeReference => "type reference"
  | typeTuple => "type tuple"
  | typeSlice => "type slice"
  | typeArray => "type array"
  | typeFn => "fn pointer"
  | typeImplTrait => "impl trait"
  | typeTraitObject => "dyn trait"
  | attr => "attribute"
  | typeParam => "type param"
  | other => "other"

def ofName? (text : String) : Option Kind := all.find? (·.name == text)

def ofCategory (category : Category) : List Kind := all.filter (·.category == category)

theorem length_all : all.length = count := rfl

theorem getElem?_all_ordinal (kind : Kind) : all[kind.ordinal]? = some kind := by
  cases kind <;> rfl

theorem ofOrdinal?_ordinal (kind : Kind) : ofOrdinal? kind.ordinal = some kind :=
  getElem?_all_ordinal kind

theorem ordinal_lt_count (kind : Kind) : kind.ordinal < count := by
  cases kind <;> decide

theorem mem_all (kind : Kind) : kind ∈ all :=
  List.mem_of_getElem? (getElem?_all_ordinal kind)

theorem ordinal_inj {a b : Kind} (h : a.ordinal = b.ordinal) : a = b := by
  have := getElem?_all_ordinal a
  rw [h, getElem?_all_ordinal b] at this
  exact (Option.some.inj this).symm

theorem map_ordinal_all : all.map ordinal = List.range count := by decide

end Kind

end KindDispatch
