import KindDispatch.Proofs.Source.Lowering
import KindDispatch.Proofs.Source.Reading
import KindDispatch.Source.Grammar.File

/-!
# What the items of a file are

The attributes of a file are attributes and nothing else.  Each of its items has a kind of node,
except for aliases of traits and for items that are read but not taken apart.
-/

namespace KindDispatch.Source

namespace Element

/-- What an item may be: an element with a kind, an alias for traits, or text that is not taken
apart. -/
inductive IsItem : Element → Prop
  | kinded {element : Element} (kinded : element.isKinded = true) : IsItem element
  | traitAlias {element : Element} (isAlias : element.construct = .traitAlias) : IsItem element
  | opaqueText : IsItem .opaqueText

theorem IsItem.withAttributes {element : Element} (item : element.IsItem)
    (attributes : List Element) : (element.withAttributes attributes).IsItem := by
  unfold Element.withAttributes
  split
  · exact item
  · cases item with
    | kinded kinded => exact .kinded kinded
    | traitAlias isAlias => exact .traitAlias isAlias
    | opaqueText => contradiction

end Element

namespace Grammar

open Source.Parser (Yields)
open Element (IsItem)

variable (grammar : Grammar)

/-! ## Attributes -/

theorem attributeBody_yields : Yields (·.construct = .attr) grammar.attributeBody := by
  unfold attributeBody
  refine .after fun _ => .ite (fun _ => .after fun _ => .after fun path => ?_)
    fun _ => .after fun path => ?_
  all_goals
    refine .after fun _ => .ite (fun _ => .after fun _ => .pure rfl) fun _ =>
      .ite (fun _ => .after fun _ => .after fun _ => .pure rfl) fun _ => .pure rfl

theorem innerAttributes_yields :
    Yields (∀ element ∈ ·, element.construct = .attr) grammar.innerAttributes :=
  .collectWhile <| .after fun _ => .after fun _ => .group grammar.attributeBody_yields

/-! ## Items -/

theorem functionItem_yields : Yields IsItem grammar.functionItem :=
  .after fun _ => .after fun _ => .after fun _ => .ite (fun _ => .pure .opaqueText) fun _ =>
    .after fun _ => .pure (.kinded rfl)

theorem useItem_yields : Yields IsItem grammar.useItem := by
  refine .after fun _ => .after fun _ => .after fun _ => .after fun _ => .after fun _ => .pure ?_
  split
  · exact .opaqueText
  · exact .kinded rfl

theorem staticItem_yields : Yields IsItem grammar.staticItem := by
  refine .after fun _ => .after fun _ => .after fun _ => .after fun _ => .after fun _ => ?_
  refine .ite (fun _ => .after fun _ => .after fun _ => .pure .opaqueText) fun _ => ?_
  refine .after fun _ => .after fun _ => .after fun _ => ?_
  refine .ite (fun _ => .pure .opaqueText) fun _ => ?_
  exact .after fun _ => .after fun _ => .after fun _ => .pure (.kinded rfl)

private theorem isItem_constElement (declaration : ConstDeclaration) :
    (constElement .constItem declaration).IsItem := by
  unfold constElement
  split
  · exact .kinded rfl
  · exact .opaqueText

private theorem isItem_aliasElement (declaration : TypeDeclaration) :
    (aliasElement .typeItem declaration).IsItem := by
  unfold aliasElement
  split
  · exact .kinded rfl
  · exact .opaqueText

theorem structItem_yields : Yields IsItem grammar.structItem :=
  .after fun _ => .after fun _ => .after fun _ => .after fun _ => .after fun _ =>
    .pure (.kinded rfl)

theorem enumItem_yields : Yields IsItem grammar.enumItem :=
  .after fun _ => .after fun _ => .after fun _ => .after fun _ => .after fun _ => .after fun _ =>
    .pure (.kinded rfl)

theorem unionItem_yields : Yields IsItem grammar.unionItem :=
  .after fun _ => .after fun _ => .after fun _ => .after fun _ => .after fun _ => .after fun _ =>
    .pure (.kinded rfl)

theorem macroItem_yields : Yields IsItem macroItem := by
  unfold macroItem
  repeat' first
    | exact .pure (.kinded rfl)
    | refine .ite (fun _ => ?_) fun _ => ?_
    | refine .after fun _ => ?_

theorem externCrate_yields : Yields IsItem externCrate := by
  unfold externCrate
  repeat' first
    | exact .pure (.kinded rfl)
    | refine .ite (fun _ => ?_) fun _ => ?_
    | refine .after fun _ => ?_

theorem moduleItem_yields : Yields IsItem grammar.moduleItem := by
  unfold moduleItem
  repeat' first
    | exact .pure (.kinded rfl)
    | exact .unmet _
    | refine .ite (fun _ => ?_) fun _ => ?_
    | refine .group ?_
    | refine .after fun _ => ?_

theorem foreignBlock_yields : Yields IsItem grammar.foreignBlock :=
  .after fun _ => .after fun _ => .group <| .after fun _ => .after fun _ => .pure (.kinded rfl)

theorem traitRest_yields (name : Name) (params : Option (List Element)) :
    Yields IsItem (grammar.traitRest name params) := by
  unfold traitRest
  repeat' first
    | exact .pure (.kinded rfl)
    | exact .unmet _
    | refine .ite (fun _ => ?_) fun _ => ?_
    | refine .group ?_
    | refine .after fun _ => ?_

theorem traitItem_yields : Yields IsItem grammar.traitItem :=
  .after fun _ => .after fun _ => .after fun _ => .after fun _ => .after fun _ => .after fun _ =>
    grammar.traitRest_yields _ _

theorem traitOrAlias_yields : Yields IsItem grammar.traitOrAlias := by
  unfold traitOrAlias
  refine .after fun _ => .after fun _ => .after fun _ => .after fun _ => .after fun _ => ?_
  refine .ite (fun _ => grammar.traitRest_yields _ _) fun _ => .after fun _ => .ite (fun _ => ?_)
    fun _ => .unmet _
  exact .after fun _ => .after fun _ => .after fun _ => .pure (.traitAlias rfl)

theorem implItem_yields : Yields IsItem grammar.implItem := by
  unfold implItem
  repeat' first
    | refine .ite (fun _ => ?_) fun _ => ?_
    | refine .after fun _ => ?_
  all_goals
    dsimp only
    split
    · exact .pure (.kinded rfl)
    · exact .pure .opaqueText

theorem macroDefinition_yields : Yields IsItem macroDefinition := by
  unfold macroDefinition
  repeat' first
    | exact .pure .opaqueText
    | exact .unmet _
    | refine .ite (fun _ => ?_) fun _ => ?_
    | refine .after fun _ => ?_

theorem externItem_yields (behind : Input) : Yields IsItem (grammar.externItem behind) := by
  unfold externItem
  refine .ite (fun _ => externCrate_yields) fun _ => .ite (fun _ => grammar.foreignBlock_yields)
    fun _ => .ite (fun _ => .ite (fun _ => grammar.foreignBlock_yields) fun _ => .raise _)
    fun _ => .raise _

theorem unsafeItem_yields (behind : Input) : Yields IsItem (grammar.unsafeItem behind) := by
  unfold unsafeItem
  exact .ite (fun _ => grammar.traitItem_yields) fun _ => .ite (fun _ => grammar.implItem_yields)
    fun _ => .ite (fun _ => grammar.foreignBlock_yields) fun _ =>
    .ite (fun _ => grammar.moduleItem_yields) fun _ => .raise _

theorem bareItem_yields : Yields IsItem grammar.bareItem := by
  refine .after fun _ => .ite (fun _ => grammar.functionItem_yields) fun _ => ?_
  refine .ite (fun _ => grammar.externItem_yields _) fun _ => ?_
  refine .ite (fun _ => grammar.useItem_yields) fun _ => ?_
  refine .ite (fun _ => grammar.staticItem_yields) fun _ => ?_
  refine .ite (fun _ => .after fun _ => .after fun _ => .after fun declaration =>
    .pure (isItem_constElement declaration)) fun _ => ?_
  refine .ite (fun _ => grammar.unsafeItem_yields _) fun _ => ?_
  refine .ite (fun _ => grammar.moduleItem_yields) fun _ => ?_
  refine .ite (fun _ => .after fun declaration =>
    .pure (isItem_aliasElement declaration)) fun _ => ?_
  refine .ite (fun _ => grammar.structItem_yields) fun _ => ?_
  refine .ite (fun _ => grammar.enumItem_yields) fun _ => ?_
  refine .ite (fun _ => grammar.unionItem_yields) fun _ => ?_
  refine .ite (fun _ => grammar.traitOrAlias_yields) fun _ => ?_
  refine .ite (fun _ => grammar.traitItem_yields) fun _ => ?_
  refine .ite (fun _ => grammar.implItem_yields) fun _ => ?_
  refine .ite (fun _ => .after fun _ => macroDefinition_yields) fun _ => ?_
  exact .ite (fun _ => macroItem_yields) fun _ => .raise _

theorem readItem_yields : Yields IsItem grammar.readItem :=
  .after fun attributes => grammar.bareItem_yields.bind fun _ item =>
    .pure (item.withAttributes attributes)

end Grammar

namespace SourceFile

theorem parser_yields (grammar : Grammar) :
    Parser.Yields (fun file => (∀ element ∈ file.attributes, element.construct = .attr) ∧
      ∀ item ∈ file.items, item.IsItem) (parser grammar) :=
  grammar.innerAttributes_yields.bind fun _ attributes =>
    (Parser.Yields.untilEnd grammar.readItem_yields).bind fun _ items => .pure ⟨attributes, items⟩

theorem ofTokens?_yields {tokens : List Token} {file : SourceFile}
    (reads : ofTokens? tokens = .ok file) :
    (∀ element ∈ file.attributes, element.construct = .attr) ∧
      ∀ item ∈ file.items, item.IsItem := by
  unfold ofTokens? at reads
  dsimp only at reads
  split at reads
  · contradiction
  · rename_i found
    split at reads
    · contradiction
    · cases reads
      exact parser_yields _ _ _ _ found

end SourceFile

end KindDispatch.Source
