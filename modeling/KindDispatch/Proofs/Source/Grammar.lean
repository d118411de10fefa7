import KindDispatch.Proofs.Source.Reads
import KindDispatch.Source.Grammar.File

/-!
# The grammar reads from the tokens

Everything in a file that is read, and every failure, is taken from its tokens.
-/

namespace KindDispatch.Source

@[reducible] def Rule.elements : Rule → List Element
  | .operators _ _ left => [left]
  | _ => []

namespace Grammar

open Source.Parser

class ReadsRules (scope : Tokens) (grammar : Grammar) : Prop where
  reads : ∀ rule : Rule, [TakenFrom scope rule.elements] → Reads scope (grammar rule)

-- whether a condition holds does not matter, so each parser is read along all of its branches
set_option synthInstance.maxSize 100000

variable {scope : Tokens} {grammar : Grammar} [rules : ReadsRules scope grammar]

instance (rule : Rule) [TakenFrom scope rule.elements] : Reads scope (grammar rule) :=
  rules.reads rule

/-! ## Rules -/

instance : Reads scope grammar.expression := by dsimp only [expression]; infer_instance

instance : Reads scope grammar.condition := by dsimp only [condition]; infer_instance

instance : Reads scope grammar.type := by dsimp only [type]; infer_instance

instance : Reads scope grammar.block := by dsimp only [block]; infer_instance

/-! ## Paths, generic arguments and bounds -/

instance : Reads scope barePath := by dsimp only [barePath]; infer_instance

instance : Reads scope grammar.attributeValue := by
  unfold attributeValue
  refine .andThen fun tokens _ => ?_
  split <;> infer_instance

instance : Reads scope grammar.attributeBody := by dsimp only [attributeBody]; infer_instance

instance : Reads scope grammar.outerAttribute := by dsimp only [outerAttribute]; infer_instance

instance : Reads scope grammar.outerAttributes := by dsimp only [outerAttributes]; infer_instance

instance : Reads scope grammar.innerAttributes := by dsimp only [innerAttributes]; infer_instance

instance (plus : Bool) : Reads scope (grammar.returnType plus) := by
  dsimp only [returnType]
  infer_instance

instance : Reads scope grammar.parenArguments := by dsimp only [parenArguments]; infer_instance

instance : Reads scope grammar.attributedBlock := by dsimp only [attributedBlock]; infer_instance

instance : Reads scope grammar.constArgument := by dsimp only [constArgument]; infer_instance

instance : Reads scope grammar.binder := by dsimp only [binder]; infer_instance

instance : Reads scope grammar.optBinder := by dsimp only [optBinder]; infer_instance

instance : Reads scope capture := by dsimp only [capture]; infer_instance

instance (inExpression : Bool) : Reads scope (grammar.segment inExpression) := by
  dsimp only [segment]
  infer_instance

instance (inExpression : Bool) : Reads scope (grammar.path inExpression) := by
  dsimp only [path]
  infer_instance

instance (consts : Bool) : Reads scope (grammar.traitBound consts) := by
  dsimp only [traitBound]
  infer_instance

instance (captures consts : Bool) : Reads scope (grammar.bound captures consts) := by
  dsimp only [bound]
  infer_instance

instance : Reads scope grammar.genericArgument := by dsimp only [genericArgument]; infer_instance

instance : Reads scope grammar.angleArguments := by dsimp only [angleArguments]; infer_instance

instance (plus captures consts : Bool) : Reads scope (grammar.bounds plus captures consts) := by
  dsimp only [bounds]
  infer_instance

instance (inExpression : Bool) : Reads scope (grammar.qualifiedPath inExpression) := by
  dsimp only [qualifiedPath]
  infer_instance

/-! ## Generic parameters and where clauses -/

instance (stop : Tokens → Bool) : Reads scope (lifetimeBounds stop) := by
  dsimp only [lifetimeBounds]
  infer_instance

instance (attributes : List Element) [TakenFrom scope attributes] :
    Reads scope (lifetimeParam attributes) := by
  dsimp only [lifetimeParam]
  infer_instance

instance (attributes : List Element) [TakenFrom scope attributes] :
    Reads scope (grammar.typeParam attributes) := by
  dsimp only [typeParam]
  infer_instance

instance (attributes : List Element) [TakenFrom scope attributes] :
    Reads scope (grammar.constParam attributes) := by
  dsimp only [constParam]
  infer_instance

instance : Reads scope grammar.genericParam := by dsimp only [genericParam]; infer_instance

instance : Reads scope grammar.readQuantified := by dsimp only [readQuantified]; infer_instance

instance : Reads scope grammar.genericParams := by dsimp only [genericParams]; infer_instance

instance : Reads scope grammar.predicate := by dsimp only [predicate]; infer_instance

instance : Reads scope grammar.whereClause := by dsimp only [whereClause]; infer_instance

/-! ## Types -/

instance : Reads scope macroCall := by dsimp only [macroCall]; infer_instance

instance : Reads scope abi := by dsimp only [abi]; infer_instance

instance : Reads scope optAbi := by dsimp only [optAbi]; infer_instance

instance (start : Position) (message : String) (bounds : List Bound)
    [TakenFrom scope start] [TakenFrom scope bounds] :
    Reads scope (boundsWithTrait start message bounds) := by
  dsimp only [boundsWithTrait]
  infer_instance

instance (start : Position) (plus : Bool) [TakenFrom scope start] :
    Reads scope (grammar.traitObjectBounds start plus) := by
  dsimp only [traitObjectBounds]
  infer_instance

instance : Reads scope grammar.traitObject := by dsimp only [traitObject]; infer_instance

instance : Reads scope grammar.moreBounds := by dsimp only [moreBounds]; infer_instance

instance (first : Bool) : Reads scope (grammar.functionTypeParam first) := by
  dsimp only [functionTypeParam]
  infer_instance

instance : Reads scope grammar.functionTypeParams := by
  dsimp only [functionTypeParams]
  infer_instance

instance : Reads scope grammar.functionType := by dsimp only [functionType]; infer_instance

instance : Sourced ParenContent :=
  ⟨fun scope content => match content with
    | .tuple elements => Sourced.takenFrom scope elements
    | .lifetimes element | .relaxed element | .single element =>
      Sourced.takenFrom scope element⟩

instance (elements : List Element) [TakenFrom scope elements] :
    TakenFrom scope (ParenContent.tuple elements) :=
  ⟨taken elements⟩

section ParenContent

variable (element : Element) [TakenFrom scope element]

instance : TakenFrom scope (ParenContent.lifetimes element) := ⟨taken element⟩
instance : TakenFrom scope (ParenContent.relaxed element) := ⟨taken element⟩
instance : TakenFrom scope (ParenContent.single element) := ⟨taken element⟩

end ParenContent

instance : Reads scope grammar.parenContent := by dsimp only [parenContent]; infer_instance

instance (plus : Bool) : Reads scope (grammar.parenthesizedType plus) := by
  refine .groupThen fun content source => ?_
  cases content with
  | tuple elements =>
      have : TakenFrom scope elements := ⟨source.taken⟩
      infer_instance
  | lifetimes object =>
      have : TakenFrom scope object := ⟨source.taken⟩
      infer_instance
  | relaxed bound =>
      have : TakenFrom scope bound := ⟨source.taken⟩
      infer_instance
  | single first =>
      have : TakenFrom scope first := ⟨source.taken⟩
      dsimp only
      refine .andThen fun more _ => ?_
      split
      · split <;> infer_instance
      · infer_instance

instance (plus : Bool) (binder : List Element) [TakenFrom scope binder] :
    Reads scope (grammar.pathLedType plus binder) := by
  unfold pathLedType
  refine .andThen fun (self, path) source => ?_
  have : TakenFrom scope path := ⟨source.taken.2⟩
  cases self with
  | none => dsimp only; infer_instance
  | some self =>
      have : TakenFrom scope self := ⟨source.taken.1 self rfl⟩
      infer_instance

instance : Reads scope builtinForm := by dsimp only [builtinForm]; infer_instance

instance : Reads scope grammar.pointerType := by dsimp only [pointerType]; infer_instance

instance : Reads scope grammar.referenceType := by dsimp only [referenceType]; infer_instance

instance : Reads scope grammar.bracketedType := by dsimp only [bracketedType]; infer_instance

instance (plus : Bool) : Reads scope (grammar.implTraitType plus) := by
  dsimp only [implTraitType]
  infer_instance

instance (plus : Bool) : Reads scope (grammar.dynType plus) := by
  dsimp only [dynType]
  infer_instance

instance (plus : Bool) : Reads scope (grammar.readType plus) := by
  dsimp only [readType]
  infer_instance

/-! ## Patterns -/

instance (leading : Bool) : Reads scope (grammar.alternatives leading) := by
  dsimp only [alternatives]
  infer_instance

instance : Reads scope grammar.patterns := by dsimp only [patterns]; infer_instance

instance (self : Option Element) (path : Path) [TakenFrom scope self] [TakenFrom scope path] :
    TakenFrom scope (pathElement self path) := by
  unfold pathElement
  infer_instance

instance (threeDots : Bool) : Reads scope (rangeDots threeDots) := by
  dsimp only [rangeDots]
  infer_instance

instance : Reads scope grammar.constExpr := by dsimp only [constExpr]; infer_instance

instance : Reads scope grammar.rangeEnd := by dsimp only [rangeEnd]; infer_instance

instance (start : Element) [TakenFrom scope start] : Reads scope (grammar.rangePattern start) := by
  dsimp only [rangePattern]
  infer_instance

instance : Reads scope grammar.openRangePattern := by dsimp only [openRangePattern]; infer_instance

instance : Reads scope member := by
  unfold member
  refine .andThen fun tokens _ => ?_
  split
  · split <;> infer_instance
  · infer_instance

instance : Reads scope grammar.fieldPattern := by dsimp only [fieldPattern]; infer_instance

instance : Reads scope grammar.structPatternFields := by
  dsimp only [structPatternFields]
  infer_instance

instance : Reads scope grammar.pathLedPattern := by dsimp only [pathLedPattern]; infer_instance

instance : Reads scope grammar.identPattern := by dsimp only [identPattern]; infer_instance

instance : Reads scope grammar.parenthesizedPattern := by
  dsimp only [parenthesizedPattern]
  infer_instance

instance : Reads scope grammar.slicePattern := by
  have (element : Taken scope Element) : Reads scope (match element.val.construct with
      | .rangeExpr dots false => raise (.ofPosition dots
          "range pattern is not allowed unparenthesized inside slice pattern")
      | _ => (return element.val : Parser Element)) := by
    split
    · rename_i dots range
      have : TakenFrom scope dots := ⟨taken element.val.construct dots (by simp [range])⟩
      infer_instance
    · infer_instance
  unfold slicePattern
  infer_instance

instance : Reads scope grammar.constantPattern := by dsimp only [constantPattern]; infer_instance

instance : Reads scope grammar.readPattern := by dsimp only [readPattern]; infer_instance

/-! ## Expressions -/

instance (structs : Bool) (precedence : Precedence) :
    Reads scope (grammar.operand structs precedence) := by
  dsimp only [operand]
  infer_instance

instance (structs : Bool) (start : Option Element) [TakenFrom scope start] :
    Reads scope (grammar.rangeTail structs start) := by
  dsimp only [rangeTail]
  infer_instance

instance (left : Element) [TakenFrom scope left] : Reads scope (grammar.castTail left) := by
  refine .andThen fun _ _ => .andThen fun type _ => .andThen fun tokens _ => ?_
  split <;> infer_instance

instance (structs : Bool) (base : Precedence) (left : Element) [TakenFrom scope left] :
    Reads scope (grammar.readOperators structs base left) := by
  refine .loop fun left _ => ?_
  dsimp only
  split
  · infer_instance
  · refine .andThen fun tokens _ => ?_
    split <;> infer_instance

instance fieldChain_reads (start : Position) [TakenFrom scope start] :
    ∀ (negative : Bool) (places : List (List Char)) (base : Element) [TakenFrom scope base],
      Reads scope (fieldChain start negative places base)
  | _, [], base, _ => by
    unfold fieldChain
    infer_instance
  | negative, text :: rest, base, _ => by
    have := fieldChain_reads start false rest
    unfold fieldChain
    split <;> infer_instance

instance (base : Element) [TakenFrom scope base] : Reads scope (grammar.memberTail base) := by
  dsimp only [memberTail]
  infer_instance

instance (base : Element) [TakenFrom scope base] : Reads scope (grammar.dotTail base) := by
  refine .andThen fun _ _ => .andThen fun start _ => .andThen fun tokens _ => ?_
  split <;> infer_instance

instance (atom : Element) [TakenFrom scope atom] : Reads scope (grammar.trailers atom) := by
  dsimp only [trailers]
  infer_instance

instance : Reads scope grammar.blockExpr := by dsimp only [blockExpr]; infer_instance

instance : Reads scope grammar.plainBlockExpr := by dsimp only [plainBlockExpr]; infer_instance

instance : Reads scope grammar.readConditional := by dsimp only [readConditional]; infer_instance

instance : Reads scope grammar.whileExpr := by dsimp only [whileExpr]; infer_instance

instance : Reads scope grammar.forExpr := by dsimp only [forExpr]; infer_instance

instance : Reads scope grammar.loopExpr := by dsimp only [loopExpr]; infer_instance

instance : Reads scope grammar.unsafeExpr := by dsimp only [unsafeExpr]; infer_instance

instance : Reads scope grammar.tryBlockExpr := by dsimp only [tryBlockExpr]; infer_instance

instance : Reads scope grammar.asyncExpr := by dsimp only [asyncExpr]; infer_instance

instance : Reads scope grammar.labeledExpr := by dsimp only [labeledExpr]; infer_instance

instance (structs : Bool) : Reads scope (grammar.letExpr structs) := by
  dsimp only [letExpr]
  infer_instance

instance : Reads scope grammar.closureParam := by dsimp only [closureParam]; infer_instance

instance (structs : Bool) : Reads scope (grammar.closureExpr structs) := by
  simp only [closureExpr, List.forIn_cons, List.forIn_nil, bind_assoc, pure_bind]
  infer_instance

instance : Reads scope grammar.fieldValue := by dsimp only [fieldValue]; infer_instance

instance : Reads scope grammar.structFields := by dsimp only [structFields]; infer_instance

instance (structs : Bool) : Reads scope (grammar.pathLedExpr structs) := by
  dsimp only [pathLedExpr]
  infer_instance

instance : Reads scope grammar.parenthesizedExpr := by
  dsimp only [parenthesizedExpr]
  infer_instance

instance : Reads scope grammar.bracketedExpr := by dsimp only [bracketedExpr]; infer_instance

instance (structs : Bool) : Reads scope (grammar.breakExpr structs) := by
  dsimp only [breakExpr]
  infer_instance

instance (word : String) (construct : Construct) [TakenFrom scope construct] :
    Reads scope (grammar.jumpExpr word construct) := by
  dsimp only [jumpExpr]
  infer_instance

instance : Reads scope grammar.matchArm := by dsimp only [matchArm]; infer_instance

instance : Reads scope grammar.matchExpr := by dsimp only [matchExpr]; infer_instance

instance (structs : Bool) : Reads scope (grammar.atom structs) := by
  dsimp only [atom]
  infer_instance

instance (structs : Bool) (attributes : List Element) [TakenFrom scope attributes] :
    Reads scope (grammar.attributedAtom structs attributes) := by
  refine .andThen fun atom _ => .andThen fun expression _ => ?_
  split
  · rename_i dots closed range
    have : TakenFrom scope dots := ⟨taken expression.construct dots (by simp [range])⟩
    infer_instance
  · infer_instance

instance (structs : Bool) : Reads scope (grammar.readUnary structs) := by
  dsimp only [readUnary]
  infer_instance

instance (structs : Bool) : Reads scope (grammar.readExpression structs) := by
  dsimp only [readExpression]
  infer_instance

instance : Reads scope grammar.optBlockLike := by dsimp only [optBlockLike]; infer_instance

instance : Reads scope grammar.readStatementExpression := by
  dsimp only [readStatementExpression]
  infer_instance

/-! ## Items -/

instance : Reads scope visibility := by
  refine .andThen fun marked _ => ?_
  split
  · refine .andThen fun tokens _ => ?_
    split <;> infer_instance
  · infer_instance

instance : Reads scope grammar.receiver := by
  have (byRef : Bool) : Reads scope (do
      let start ← position
      let name ← (do keyword "self"; return (⟨"Self", start.line⟩ : Name))
      let own : Element := .named (.pathType .single) name [(Path.ofName name).element]
      if byRef then return (.plain .referenceType [own], start)
      else if ← optPunct ":" then return (← grammar.type, start)
      else return (own, start)) :=
    reads_selfName fun start name _ _ => inferInstance
  unfold receiver
  dsimp only
  infer_instance

instance : Sourced Params := ⟨fun scope params => Sourced.takenFrom scope params.elements⟩

instance (elements : List Element) (hasReceiver : Bool) [TakenFrom scope elements] :
    TakenFrom scope (Params.mk elements hasReceiver) :=
  ⟨taken elements⟩

instance (params : Params) [TakenFrom scope params] : TakenFrom scope params.elements :=
  ⟨taken params⟩

instance (params : Params) [TakenFrom scope params] : Reads scope (grammar.param params) := by
  dsimp only [param]
  infer_instance

instance : Sourced Signature :=
  ⟨fun scope signature => Sourced.takenFrom scope signature.name ∧
    Sourced.takenFrom scope signature.element⟩

instance (name : Name) (safe : Bool) (element : Element) [TakenFrom scope name]
    [TakenFrom scope element] : TakenFrom scope (Signature.mk name safe element) :=
  ⟨taken name, taken element⟩

section Signature

variable (signature : Signature) [TakenFrom scope signature]

instance : TakenFrom scope signature.name := ⟨(taken signature).1⟩
instance : TakenFrom scope signature.element := ⟨(taken signature).2⟩

end Signature

instance (params : Option (List Element)) (clause : Option Element) [TakenFrom scope params]
    [TakenFrom scope clause] : TakenFrom scope (genericsElement params clause) := by
  unfold genericsElement
  infer_instance

instance (allowSafe : Bool) : Reads scope (grammar.signature allowSafe) := by
  dsimp only [signature]
  infer_instance

instance : Reads scope grammar.functionBody := by dsimp only [functionBody]; infer_instance

instance : Sourced TypeDeclaration :=
  ⟨fun scope declaration => Sourced.takenFrom scope declaration.name ∧
    Sourced.takenFrom scope declaration.generics ∧ Sourced.takenFrom scope declaration.bounds ∧
    Sourced.takenFrom scope declaration.definition⟩

instance (visible : Bool) (name : Name) (generics : Element) (bounds : Option (List Element))
    (definition : Option Element) [TakenFrom scope name] [TakenFrom scope generics]
    [TakenFrom scope bounds] [TakenFrom scope definition] :
    TakenFrom scope (TypeDeclaration.mk visible name generics bounds definition) :=
  ⟨taken name, taken generics, taken bounds, taken definition⟩

section TypeDeclaration

variable (declaration : TypeDeclaration) [TakenFrom scope declaration]

instance : TakenFrom scope declaration.name := ⟨(taken declaration).1⟩
instance : TakenFrom scope declaration.generics := ⟨(taken declaration).2.1⟩
instance : TakenFrom scope declaration.bounds := ⟨(taken declaration).2.2.1⟩
instance : TakenFrom scope declaration.definition := ⟨(taken declaration).2.2.2⟩

instance (construct : Construct) [TakenFrom scope construct] :
    TakenFrom scope (aliasElement construct declaration) := by
  unfold aliasElement
  split
  · rename_i type _ definition
    have : TakenFrom scope type := ⟨taken declaration.definition type definition⟩
    infer_instance
  · infer_instance

end TypeDeclaration

instance (allowDefault : Bool) (place : ClausePlace) :
    Reads scope (grammar.typeDeclaration allowDefault place) := by
  dsimp only [typeDeclaration]
  infer_instance

instance : Sourced ConstDeclaration :=
  ⟨fun scope declaration => Sourced.takenFrom scope declaration.name ∧
    Sourced.takenFrom scope declaration.type ∧ Sourced.takenFrom scope declaration.value⟩

instance (name : Name) (generic : Bool) (type : Element) (value : Option Element)
    [TakenFrom scope name] [TakenFrom scope type] [TakenFrom scope value] :
    TakenFrom scope (ConstDeclaration.mk name generic type value) :=
  ⟨taken name, taken type, taken value⟩

section ConstDeclaration

variable (declaration : ConstDeclaration) [TakenFrom scope declaration]

instance : TakenFrom scope declaration.name := ⟨(taken declaration).1⟩
instance : TakenFrom scope declaration.type := ⟨(taken declaration).2.1⟩
instance : TakenFrom scope declaration.value := ⟨(taken declaration).2.2⟩

instance (construct : Construct) [TakenFrom scope construct] :
    TakenFrom scope (constElement construct declaration) := by
  unfold constElement
  split
  · rename_i value _ given
    have : TakenFrom scope value := ⟨taken declaration.value value given⟩
    infer_instance
  · infer_instance

end ConstDeclaration

instance : Reads scope grammar.constDeclaration := by dsimp only [constDeclaration]; infer_instance

instance : Reads scope grammar.staticItem := by dsimp only [staticItem]; infer_instance

instance : Reads scope grammar.namedField := by dsimp only [namedField]; infer_instance

instance : Reads scope grammar.namedFields := by dsimp only [namedFields]; infer_instance

instance : Reads scope grammar.tupleFields := by dsimp only [tupleFields]; infer_instance

instance : Reads scope grammar.structBody := by dsimp only [structBody]; infer_instance

instance : Reads scope grammar.structItem := by dsimp only [structItem]; infer_instance

instance : Reads scope grammar.variant := by dsimp only [variant]; infer_instance

instance : Reads scope grammar.enumItem := by dsimp only [enumItem]; infer_instance

instance : Reads scope grammar.unionItem := by dsimp only [unionItem]; infer_instance

instance (construct : Construct) [TakenFrom scope construct] :
    Reads scope (macroMember construct) := by
  dsimp only [macroMember]
  infer_instance

instance : Reads scope macroItem := by dsimp only [macroItem]; infer_instance

instance : Reads scope macroDefinition := by dsimp only [macroDefinition]; infer_instance

instance : Reads scope externCrate := by dsimp only [externCrate]; infer_instance

instance (rooted : Bool) : Reads scope (grammar.readUseTree rooted) := by
  dsimp only [readUseTree]
  infer_instance

instance : Reads scope grammar.useItem := by dsimp only [useItem]; infer_instance

instance : Reads scope grammar.moduleItem := by dsimp only [moduleItem]; infer_instance

instance : Reads scope grammar.foreignFunction := by dsimp only [foreignFunction]; infer_instance

instance : Reads scope grammar.foreignStatic := by dsimp only [foreignStatic]; infer_instance

instance : Reads scope grammar.foreignType := by dsimp only [foreignType]; infer_instance

instance : Reads scope grammar.foreignMember := by dsimp only [foreignMember]; infer_instance

instance : Reads scope grammar.foreignBlock := by dsimp only [foreignBlock]; infer_instance

instance : Reads scope grammar.traitFunction := by dsimp only [traitFunction]; infer_instance

instance (behind : Tokens) [TakenFrom scope behind] : Reads scope (grammar.traitConst behind) := by
  dsimp only [traitConst]
  infer_instance

instance : Reads scope grammar.traitType := by dsimp only [traitType]; infer_instance

instance : Reads scope grammar.traitMember := by dsimp only [traitMember]; infer_instance

instance (stop : Tokens → Bool) (consts : Bool) :
    Reads scope (grammar.superBounds stop consts) := by
  dsimp only [superBounds]
  infer_instance

instance (name : Name) (params : Option (List Element))
    [TakenFrom scope name] [TakenFrom scope params] :
    Reads scope (grammar.traitRest name params) := by
  dsimp only [traitRest]
  infer_instance

instance : Reads scope grammar.traitItem := by dsimp only [traitItem]; infer_instance

instance : Reads scope grammar.traitOrAlias := by dsimp only [traitOrAlias]; infer_instance

instance : Reads scope grammar.implFunction := by dsimp only [implFunction]; infer_instance

instance : Reads scope grammar.implMember := by dsimp only [implMember]; infer_instance

instance (start : Position) (negative : Bool) [TakenFrom scope start] :
    Reads scope (grammar.implHead start negative) := by
  refine .andThen fun first _ => .andThen fun ofTrait _ => ?_
  split
  · refine .andThen fun type _ => ?_
    split <;> infer_instance
  · infer_instance

instance (type : Element) [TakenFrom scope type] : TakenFrom scope (implName type) := by
  unfold implName
  split <;> infer_instance

instance : Reads scope grammar.implItem := by
  have (refused : Bool) (head : Option (List Element × Element)) (generics : Element)
      (attributes members : List Element) [TakenFrom scope head] [TakenFrom scope generics]
      [TakenFrom scope attributes] [TakenFrom scope members] :
      Reads scope (match refused, head with
        | false, some (trait, type) =>
          (return ⟨.implItem, implName type, attributes, generics :: trait ++ type :: members⟩ :
            Parser Element)
        | _, _ => return .opaqueText) := by
    split
    · rename_i trait type found
      have : TakenFrom scope (trait, type) := ⟨found.taken _ rfl⟩
      have : TakenFrom scope trait := ⟨(taken (trait, type)).1⟩
      have : TakenFrom scope type := ⟨(taken (trait, type)).2⟩
      infer_instance
    · infer_instance
  dsimp only [implItem]
  infer_instance

instance : Reads scope grammar.functionItem := by dsimp only [functionItem]; infer_instance

instance (behind : Input) [TakenFrom scope behind] : Reads scope (grammar.externItem behind) := by
  dsimp only [externItem]
  infer_instance

instance (behind : Input) [TakenFrom scope behind] : Reads scope (grammar.unsafeItem behind) := by
  dsimp only [unsafeItem]
  infer_instance

instance : Reads scope grammar.bareItem := by dsimp only [bareItem]; infer_instance

instance : Reads scope grammar.readItem := by dsimp only [readItem]; infer_instance

/-! ## Statements -/

instance : Sourced MacroUse := ⟨fun _ _ => True⟩
instance (use : MacroUse) : TakenFrom scope use := ⟨trivial⟩

instance : Sourced Statement := ⟨fun scope statement => Sourced.takenFrom scope statement.element⟩

instance (element : Element) (needsSemicolon : Bool) [TakenFrom scope element] :
    TakenFrom scope (Statement.mk element needsSemicolon) :=
  ⟨taken element⟩

instance (statement : Statement) [TakenFrom scope statement] :
    TakenFrom scope statement.element :=
  ⟨taken statement⟩

instance (attributes : List Element) [TakenFrom scope attributes] :
    Reads scope (grammar.letStatement attributes) := by
  dsimp only [letStatement]
  infer_instance

instance (attributes : List Element) [TakenFrom scope attributes] :
    Reads scope (macroStatement attributes) := by
  dsimp only [macroStatement]
  infer_instance

mutual

theorem takenFrom_withLeftAttributes (attributes : List Element) [TakenFrom scope attributes] :
    ∀ (element : Element) [TakenFrom scope element],
      TakenFrom scope (element.withLeftAttributes attributes)
  | ⟨construct, name, own, parts⟩, ⟨.intro hconstruct hname hown hparts⟩ => by
    have : TakenFrom scope construct := ⟨hconstruct⟩
    have : TakenFrom scope name := ⟨hname⟩
    have : TakenFrom scope own := ⟨hown⟩
    have : TakenFrom scope parts := ⟨hparts⟩
    have := takenFrom_withFirstAttributes attributes parts
    unfold Element.withLeftAttributes
    infer_instance

theorem takenFrom_withFirstAttributes (attributes : List Element) [TakenFrom scope attributes] :
    ∀ (elements : List Element) [TakenFrom scope elements],
      TakenFrom scope (Element.withFirstAttributes attributes elements)
  | [], _ => by
    unfold Element.withFirstAttributes
    infer_instance
  | first :: rest, source => by
    have : TakenFrom scope first := ⟨source.taken first List.mem_cons_self⟩
    have : TakenFrom scope rest := ⟨fun element later => source.taken element (.tail _ later)⟩
    have := takenFrom_withLeftAttributes attributes first
    unfold Element.withFirstAttributes
    infer_instance

end

instance (attributes : List Element) [TakenFrom scope attributes] :
    Reads scope (grammar.expressionStatement attributes) := by
  refine .andThen fun expression _ => .andThen fun ended _ => ?_
  have : TakenFrom scope (expression.withLeftAttributes attributes) :=
    takenFrom_withLeftAttributes attributes expression
  split <;> infer_instance

instance : Reads scope grammar.statement := by
  unfold statement
  refine .andThen fun attributes _ => .andThen fun found _ => ?_
  cases found <;> dsimp only <;> infer_instance

instance : Reads scope grammar.readStatements := by dsimp only [readStatements]; infer_instance

/-! ## Files -/

instance (rule : Rule) [elements : TakenFrom scope rule.elements] :
    Reads scope (grammar.readRule rule) := by
  cases rule with
  | operators structs base left =>
      have : TakenFrom scope left := ⟨elements.taken left List.mem_cons_self⟩
      dsimp only [readRule]
      infer_instance
  | _ =>
      dsimp only [readRule]
      infer_instance

omit rules in
instance readsRules_nested (depth : Nat) : ReadsRules scope (nested depth) := by
  induction depth with
  | zero =>
      constructor
      intro rule _
      unfold nested
      infer_instance
  | succ depth ih =>
      constructor
      intro rule _
      unfold nested
      infer_instance

end Grammar

namespace SourceFile

variable {scope : Tokens}

instance : Sourced SourceFile :=
  ⟨fun scope file => Sourced.takenFrom scope file.attributes ∧
    Sourced.takenFrom scope file.items⟩

instance (attributes items : List Element) [TakenFrom scope attributes] [TakenFrom scope items] :
    TakenFrom scope (SourceFile.mk attributes items) :=
  ⟨taken attributes, taken items⟩

instance (grammar : Grammar) [grammar.ReadsRules scope] : Parser.Reads scope (parser grammar) := by
  unfold parser
  infer_instance

theorem takenFrom_ofTokens? (tokens : Tokens) :
    Sourced.takenFrom (Token.flattenList tokens) (ofTokens? tokens) := by
  have source : Sourced.takenFrom (Token.flattenList tokens) (Input.ofTokens tokens) := by
    refine ⟨Token.flattenList_subset_iff.mp (List.Subset.refl _), List.mem_cons_self, ?_⟩
    simp [Sourced.takenFrom, Input.ofTokens]
  have read := (inferInstance : Parser.Reads (Token.flattenList tokens) (parser
    (Grammar.nested (depthBound (Input.ofTokens tokens).bound)))).reads ⟨_, source⟩
  unfold ofTokens?
  dsimp only
  split
  · rename_i failure fails
    rw [fails] at read
    exact read
  · rename_i file behind reads
    rw [reads] at read
    split
    · rename_i failure stray
      exact read.2.2.2 failure stray
    · exact read.1

end SourceFile

end KindDispatch.Source
