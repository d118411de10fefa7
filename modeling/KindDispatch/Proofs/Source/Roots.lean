import KindDispatch.Proofs.Source.Items
import KindDispatch.Proofs.Source.Origin
import Mathlib.Data.List.Forall2

/-!
# Roots

The roots of a file are the nodes of its attributes and then those of its items.  So there is one
root for each item if and only if the file has no attributes of its own and all its items have a
kind.
-/

namespace KindDispatch.Source

namespace Element

/-- A node that an element at the top of a file stands for by itself. -/
def StandsFor (element : Element) (root : Node) : Prop :=
  element.isKinded = true ∧ element.forest 0 = [root]

private theorem forestList_eq_flatMap (enclosing : Nat) (elements : List Element) :
    forestList enclosing elements = elements.flatMap (forest enclosing) := by
  induction elements with
  | nil => rfl
  | cons element rest ih => rw [forestList, ih, List.flatMap_cons]

theorem exists_standsFor {element : Element} (kinded : element.isKinded = true) :
    ∃ root, element.StandsFor root ∧ element.construct.kind? = some root.kind := by
  obtain ⟨kind, hkind⟩ := Option.isSome_iff_exists.mp kinded
  exact ⟨element.nodeOf kind 0, ⟨kinded, forest_of_kind hkind 0⟩, hkind⟩

theorem forall₂_standsFor {elements : List Element}
    (kinded : ∀ element ∈ elements, element.isKinded = true) :
    List.Forall₂ StandsFor elements (elements.flatMap (forest 0)) := by
  induction elements with
  | nil => exact .nil
  | cons element rest ih =>
      obtain ⟨root, standing, -⟩ := exists_standsFor (kinded element List.mem_cons_self)
      rw [List.flatMap_cons, standing.2]
      exact .cons standing (ih fun other member => kinded other (List.mem_cons_of_mem _ member))

private theorem isKinded_of_forall₂ {elements : List Element} {roots : Forest}
    (standing : List.Forall₂ StandsFor elements roots) :
    ∀ element ∈ elements, element.isKinded = true := by
  induction standing with
  | nil => simp
  | cons first rest ih =>
      intro element member
      rcases List.mem_cons.mp member with rfl | later
      · exact first.1
      · exact ih element later

end Element

theorem eq_ok_of_toOption {ε α : Type} {result : Except ε α} {value : α}
    (succeeds : result.toOption = some value) : result = .ok value := by
  cases result with
  | error cause => contradiction
  | ok found => rw [Option.some.inj succeeds]

theorem parse_eq_ok {source : String} {forest : Forest} (parsed : parse source = .ok forest) :
    ∃ file, parseFile source = .ok file ∧ file.lower = forest := by
  unfold parse at parsed
  cases hfile : parseFile source with
  | error failure =>
      rw [hfile] at parsed
      contradiction
  | ok file =>
      rw [hfile] at parsed
      cases parsed
      exact ⟨file, rfl, rfl⟩

theorem parseFile_items {source : String} {file : SourceFile}
    (parsed : parseFile source = .ok file) :
    (∀ element ∈ file.attributes, element.isKinded = true) ∧
      ∀ item ∈ file.items, item.IsItem := by
  obtain ⟨tokens, -, hfile⟩ := parseFile_eq_ok parsed
  obtain ⟨attributes, items⟩ := SourceFile.ofTokens?_yields hfile
  refine ⟨fun element member => ?_, items⟩
  rw [Element.isKinded, attributes element member]
  rfl

theorem SourceFile.forall₂_standsFor_iff {file : SourceFile}
    (attributes : ∀ element ∈ file.attributes, element.isKinded = true) :
    List.Forall₂ Element.StandsFor file.items file.forest ↔
      file.attributes = [] ∧ ∀ item ∈ file.items, item.isKinded = true := by
  rw [forest, Element.forestList_eq_flatMap, Element.forestList_eq_flatMap]
  constructor
  · intro standing
    have items := Element.isKinded_of_forall₂ standing
    have counted := standing.length_eq
    rw [List.length_append, ← (Element.forall₂_standsFor attributes).length_eq,
      ← (Element.forall₂_standsFor items).length_eq] at counted
    exact ⟨List.eq_nil_of_length_eq_zero (by omega), items⟩
  · rintro ⟨none, items⟩
    rw [none, List.flatMap_nil, List.nil_append]
    exact Element.forall₂_standsFor items

/--
The roots of a file are one for each attribute of the file and then those of its items.  An item has
one root, its own node, unless it is an alias of traits or is not taken apart: the second has none,
and the first has the nodes of what is found in it.  So the roots are the nodes of the items, one
for each, exactly if the file has no attributes and all its items have a kind.
-/
theorem roots_of_parsed_file {source : String} {forest : Forest}
    (parsed : parse source = .ok forest) :
    ∃ file, parseFile source = .ok file ∧
      forest = file.attributes.flatMap (Element.forest 0) ++
        file.items.flatMap (Element.forest 0) ∧
      List.Forall₂ Element.StandsFor file.attributes
        (file.attributes.flatMap (Element.forest 0)) ∧
      (∀ item ∈ file.items,
        (∃ root, item.StandsFor root ∧ item.construct.kind? = some root.kind) ∨
          (item.construct = .traitAlias ∧ item.forest 0 =
            Element.forestList 0 item.attributes ++ Element.forestList 0 item.parts) ∨
          (item = .opaqueText ∧ item.forest 0 = [])) ∧
      (List.Forall₂ Element.StandsFor file.items forest ↔
        file.attributes = [] ∧ ∀ item ∈ file.items, item.isKinded = true) := by
  obtain ⟨file, hfile, rfl⟩ := parse_eq_ok parsed
  obtain ⟨attributes, items⟩ := parseFile_items hfile
  rw [file.lower_eq_forest]
  refine ⟨file, hfile, ?_, Element.forall₂_standsFor attributes, fun item member => ?_,
    SourceFile.forall₂_standsFor_iff attributes⟩
  · rw [SourceFile.forest, Element.forestList_eq_flatMap, Element.forestList_eq_flatMap]
  · cases items item member with
    | kinded kinded => exact .inl (Element.exists_standsFor kinded)
    | traitAlias isAlias =>
        have hkind : item.construct.kind? = none := by rw [isAlias]; rfl
        exact .inr (.inl ⟨isAlias, Element.forest_of_no_kind hkind 0⟩)
    | opaqueText => exact .inr (.inr ⟨rfl, rfl⟩)

theorem roots_of_parsed_file_attributed :
    parse "#![a]\nstruct A;" = .ok [⟨.attr, some "a", 1, []⟩, ⟨.struct, some "A", 2, []⟩] ∧
      ∃ file, parseFile "#![a]\nstruct A;" = .ok file ∧ file.attributes ≠ [] := by
  have parsed : parse "#![a]\nstruct A;" =
      .ok [⟨.attr, some "a", 1, []⟩, ⟨.struct, some "A", 2, []⟩] :=
    eq_ok_of_toOption (by decide +kernel)
  obtain ⟨file, hfile, -, -, -, -⟩ := roots_of_parsed_file parsed
  have attributes : (parseFile "#![a]\nstruct A;").toOption.any (!·.attributes.isEmpty) = true := by
    decide +kernel
  rw [hfile] at attributes
  refine ⟨parsed, file, hfile, ?_⟩
  simpa [Except.toOption] using attributes

theorem attributed_file_has_more_roots :
    ∃ file forest, parseFile "#![allow(dead_code)]\nfn main() {}" = .ok file ∧
      parse "#![allow(dead_code)]\nfn main() {}" = .ok forest ∧
      file.items.length = 1 ∧ forest.map Node.kind = [.attr, .function] ∧
      ¬List.Forall₂ Element.StandsFor file.items forest := by
  have shape : (parseFile "#![allow(dead_code)]\nfn main() {}").toOption.map
      (fun file => (file.items.length, file.lower.map Node.kind)) =
        some (1, [.attr, .function]) := by
    decide +kernel
  obtain ⟨file, hfile, counted⟩ := Option.map_eq_some_iff.mp shape
  obtain ⟨items, kinds⟩ := Prod.mk.inj counted
  have parsed := eq_ok_of_toOption hfile
  refine ⟨file, file.lower, parsed, by rw [parse, parsed]; rfl, items, kinds, ?_⟩
  intro standing
  have counted := standing.length_eq
  rw [items, ← List.length_map (f := Node.kind), kinds] at counted
  exact absurd counted (by decide)

end KindDispatch.Source
