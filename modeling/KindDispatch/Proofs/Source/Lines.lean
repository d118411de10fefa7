import KindDispatch.Proofs.Source.Roots

/-!
# Lines of nodes

A node with a name is on the line of the identifier that names it.  A node without one is on the
line of its parent, and so on the line of the nearest node with a name that it is in.
-/

namespace KindDispatch

/-- Nodes without a name are on the line of their parents, and those at the top on `enclosing`. -/
inductive Node.Inherits : (enclosing : Nat) → Node → Prop
  | intro {enclosing : Nat} {node : Node} (own : node.name = none → node.line = enclosing)
      (children : ∀ child ∈ node.children, Inherits node.line child) : Inherits enclosing node

/-- A node of a forest and the nodes it is in, its parent first and a root last. -/
inductive Forest.Lineage (forest : Forest) : Node → List Node → Prop
  | root {node : Node} (member : node ∈ forest) : Lineage forest node []
  | child {node parent : Node} {above : List Node} (lineage : Lineage forest parent above)
      (member : node ∈ parent.children) : Lineage forest node (parent :: above)

namespace Forest.Lineage

variable {forest : Forest} {node : Node} {above : List Node}

private theorem inherits (roots : ∀ root ∈ forest, root.Inherits 0)
    (lineage : Lineage forest node above) : node.Inherits ((above.head?.map Node.line).getD 0) := by
  induction lineage with
  | root member => exact roots _ member
  | child lineage member ih =>
      cases ih with
      | intro own children => exact children _ member

private theorem line_of_nameless (roots : ∀ root ∈ forest, root.Inherits 0)
    (lineage : Lineage forest node above) (nameless : node.name = none) :
    node.line = (above.head?.map Node.line).getD 0 := by
  cases lineage.inherits roots with
  | intro own children => exact own nameless

theorem line_eq (roots : ∀ root ∈ forest, root.Inherits 0) (lineage : Lineage forest node above) :
    node.line = (((node :: above).find? (·.name.isSome)).map Node.line).getD 0 := by
  induction lineage with
  | root member =>
      rename_i node
      cases hname : node.name with
      | some name => simp [hname]
      | none => simpa [hname] using (Lineage.root member).line_of_nameless roots hname
  | child lineage member ih =>
      rename_i node parent above
      cases hname : node.name with
      | some name => simp [hname]
      | none =>
          have inherited : node.line = parent.line :=
            (Lineage.child lineage member).line_of_nameless roots hname
          rw [List.find?_cons_of_neg (by simp [hname]), ← ih, inherited]

end Forest.Lineage

namespace Source

namespace Element

mutual

theorem inherits_forest : ∀ (enclosing : Nat) (element : Element),
    ∀ node ∈ element.forest enclosing, node.Inherits enclosing
  | enclosing, ⟨construct, name, attributes, parts⟩ => by
    intro node member
    cases hkind : construct.kind? with
    | none =>
        rw [forest_of_no_kind hkind, List.mem_append] at member
        rcases member with member | member
        · exact inherits_forestList enclosing attributes node member
        · exact inherits_forestList enclosing parts node member
    | some kind =>
        rw [forest_of_kind hkind, List.mem_singleton] at member
        subst member
        constructor
        · intro nameless
          cases name with
          | none => rfl
          | some name => contradiction
        · intro child member
          rcases List.mem_append.mp member with member | member
          · exact inherits_forestList _ attributes child member
          · exact inherits_forestList _ parts child member

theorem inherits_forestList : ∀ (enclosing : Nat) (elements : List Element),
    ∀ node ∈ forestList enclosing elements, node.Inherits enclosing
  | _, [] => by simp [forestList]
  | enclosing, element :: rest => by
    intro node member
    rw [forestList, List.mem_append] at member
    rcases member with member | member
    · exact inherits_forest enclosing element node member
    · exact inherits_forestList enclosing rest node member

end

/-- The node has the kind and the name of the element, and its line if it has a name. -/
def Names (element : Element) (node : Node) : Prop :=
  element.construct.kind? = some node.kind ∧ node.name = element.name.map Name.text ∧
    ∀ name ∈ element.name, node.line = min name.line lineLimit

mutual

theorem names_forest : ∀ (enclosing : Nat) (element : Element),
    List.Forall₂ Names (element.elements.filter isKinded) (element.forest enclosing).preorder
  | enclosing, ⟨construct, name, attributes, parts⟩ => by
    cases hkind : construct.kind? with
    | none =>
        rw [forest_of_no_kind hkind, elements, List.filter_cons_of_neg (by simp [isKinded, hkind]),
          List.filter_append, Forest.preorder_append]
        exact List.rel_append (names_forestList enclosing attributes)
          (names_forestList enclosing parts)
    | some kind =>
        rw [forest_of_kind hkind, elements, List.filter_cons_of_pos (by simp [isKinded, hkind]),
          List.filter_append, Forest.preorder_singleton, nodeOf, Forest.preorder_append]
        refine .cons ⟨hkind, rfl, ?_⟩ ?_
        · rintro name ⟨⟩
          rfl
        · exact List.rel_append (names_forestList _ attributes) (names_forestList _ parts)

theorem names_forestList : ∀ (enclosing : Nat) (elements : List Element),
    List.Forall₂ Names ((elementsList elements).filter isKinded)
      (forestList enclosing elements).preorder
  | _, [] => .nil
  | enclosing, element :: rest => by
    rw [elementsList, forestList, List.filter_append, Forest.preorder_append]
    exact List.rel_append (names_forest enclosing element) (names_forestList enclosing rest)

end

end Element

namespace SourceFile

theorem inherits_forest (file : SourceFile) : ∀ root ∈ file.forest, root.Inherits 0 := by
  intro root member
  rcases List.mem_append.mp member with member | member
  · exact Element.inherits_forestList 0 file.attributes root member
  · exact Element.inherits_forestList 0 file.items root member

theorem names_forest (file : SourceFile) :
    List.Forall₂ Element.Names (file.elements.filter Element.isKinded) file.forest.preorder := by
  rw [elements, forest, List.filter_append, Forest.preorder_append]
  exact List.rel_append (Element.names_forestList 0 file.attributes)
    (Element.names_forestList 0 file.items)

end SourceFile

/--
In every forest that a text is parsed to, the nodes are those of the elements with a kind, in order.
A node with a name is on the line of the identifier that names its element, which is the line the
identifier is read on in the text.  A node without a name has the line of its parent, and 0 if it is
a root.  So each node has the line of the first node with a name on the way up from it, and 0 if
there is none.
-/
theorem lines_are_inherited {source : String} {forest : Forest}
    (parsed : parse source = .ok forest) :
    ∃ file, parseFile source = .ok file ∧
      List.Forall₂ Element.Names (file.elements.filter Element.isKinded) forest.preorder ∧
      (∀ element ∈ file.elements, ∀ name ∈ element.name, name.IsIn source.toList) ∧
      ∀ node above, forest.Lineage node above →
        (node.name = none → node.line = (above.head?.map Node.line).getD 0) ∧
          node.line = (((node :: above).find? (·.name.isSome)).map Node.line).getD 0 := by
  obtain ⟨file, hfile, rfl⟩ := parse_eq_ok parsed
  rw [file.lower_eq_forest]
  exact ⟨file, hfile, file.names_forest, names_of_parsed_file hfile, fun _ _ lineage =>
    ⟨lineage.line_of_nameless file.inherits_forest, lineage.line_eq file.inherits_forest⟩⟩

theorem lines_are_inherited_literal :
    ∃ constant, parse "use a;\nconst A: u8 =\n  0;" = .ok [⟨.useDecl, none, 0, []⟩, constant] ∧
      constant.line = 2 ∧ ⟨.literal, none, 2, []⟩ ∈ constant.children ∧
      (⟨.literal, none, 2, []⟩ : Node).line = constant.line := by
  have parsed : parse "use a;\nconst A: u8 =\n  0;" = .ok [⟨.useDecl, none, 0, []⟩,
      ⟨.const, some "A", 2, [⟨.typePath, some "u8", 2, []⟩, ⟨.literal, none, 2, []⟩]⟩] :=
    eq_ok_of_toOption (by decide +kernel)
  obtain ⟨file, -, -, -, lines⟩ := lines_are_inherited parsed
  have literal := lines _ _ (.child (.root (.tail _ (.head _))) (.tail _ (.head _)))
  exact ⟨_, parsed, rfl, .tail _ (.head _), literal.1 rfl⟩

end Source

end KindDispatch
