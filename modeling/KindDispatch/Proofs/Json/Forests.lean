import KindDispatch.Json.Forest
import KindDispatch.Proofs.Json.Writing

/-!
# Forests and their texts

`Forest.ofText?` reads a forest from a JSON text; a node without the field for its name has none,
and one without the field for its children has none of them.  It reads every JSON text that says
what a forest does as that forest, so forests with one text are the same.
-/

namespace KindDispatch

theorem Kind.ofName?_name (kind : Kind) : ofName? kind.name = some kind := by
  have listed : ∀ kind ∈ all, ofName? kind.name = some kind := by decide +kernel
  exact listed kind kind.mem_all

namespace Node

/-! ## Reading forests -/

structure Fields where
  kind? : Option Kind
  name? : Option String
  line? : Option Nat
  children : List Node

def Fields.missing : Fields := ⟨none, none, none, []⟩

mutual

def ofContent? : JsonContent → Option Node
  | .object fields => do
    let fields ← readFields? fields
    return ⟨← fields.kind?, fields.name?, ← fields.line?, fields.children⟩
  | _ => none

def readFields? : List (String × JsonContent) → Option Fields
  | [] => some .missing
  | (key, value) :: rest => do
    let fields ← readFields? rest
    match value with
    | .string text =>
      if key = "kind" then return { fields with kind? := ← Kind.ofName? text }
      else if key = "name" then return { fields with name? := some text }
      else none
    | .number numeral =>
      if key = "line" then return { fields with line? := some (naturalOfDigits numeral) } else none
    | .array elements =>
      if key = "children" then return { fields with children := ← ofContents? elements } else none
    | _ => none

def ofContents? : List JsonContent → Option (List Node)
  | [] => some []
  | content :: rest => do return (← ofContent? content) :: (← ofContents? rest)

end

private theorem readFields?_childrenField {children : List Node}
    (read : ofContents? (Json.contents (jsonList children)) = some children) :
    readFields? (Json.fieldContents (childrenField children)) =
      some { Fields.missing with children } := by
  cases children with
  | nil => rfl
  | cons node rest =>
      rw [jsonList] at read
      simp [childrenField, Json.fieldContents, Json.content, readFields?, read]

private theorem readFields?_line {fields : List (String × Json)} {known : Fields} (line : Nat)
    (read : readFields? (Json.fieldContents fields) = some known) :
    readFields? (Json.fieldContents (("line", .nat line) :: fields)) =
      some { known with line? := some line } := by
  simp [Json.fieldContents, Json.content, readFields?, read]

private theorem readFields?_nameField {fields : List (String × Json)} {known : Fields}
    (name : Option String) (missing : known.name? = none)
    (read : readFields? (Json.fieldContents fields) = some known) :
    readFields? (Json.fieldContents (nameField name ++ fields)) =
      some { known with name? := name } := by
  cases name with
  | none => simp [nameField, read, ← missing]
  | some name => simp [nameField, Json.fieldContents, Json.content, readFields?, read]

private theorem readFields?_kind {fields : List (String × Json)} {known : Fields} (kind : Kind)
    (read : readFields? (Json.fieldContents fields) = some known) :
    readFields? (Json.fieldContents (("kind", kind.json) :: fields)) =
      some { known with kind? := some kind } := by
  simp [Json.fieldContents, Json.content, Kind.json, readFields?, read, Kind.ofName?_name]

mutual

theorem ofContent?_json : ∀ node : Node, ofContent? node.json.content = some node
  | ⟨kind, name, line, children⟩ => by
      have read := readFields?_childrenField (ofContents?_jsonList children)
      have read := readFields?_nameField name rfl (readFields?_line line read)
      have read := readFields?_kind kind read
      simp [json, Json.content, ofContent?, read]

theorem ofContents?_jsonList : ∀ nodes : List Node,
    ofContents? (Json.contents (jsonList nodes)) = some nodes
  | [] => rfl
  | node :: rest => by
      rw [jsonList, Json.contents, ofContents?, ofContent?_json node, ofContents?_jsonList rest]
      rfl

end

end Node

namespace Forest

def content (forest : Forest) : JsonContent := .array (Json.contents (Node.jsonList forest))

def ofText? (text : String) : Option Forest := do
  match ← JsonContent.read? text.toList with
  | .array elements => Node.ofContents? elements
  | _ => none

theorem ofText?_of_isText {forest : Forest} {text : String}
    (isText : forest.content.IsText text.toList) : ofText? text = some forest := by
  have read := JsonContent.read?_of_isText isText
  simp [ofText?, read, content, Node.ofContents?_jsonList]

theorem isText_jsonText (forest : Forest) : forest.content.IsText forest.jsonText.toList :=
  Json.isText_compact (.array (Node.jsonList forest))

/-- A forest is determined by its text.  The text is a JSON text; from it, and from any other JSON
text that says the same, `ofText?` reads the forest back, so no two forests have a text in common,
neither the one written here nor one with other blanks or escapes. -/
theorem text_determines_forest (forest : Forest) :
    forest.content.IsText forest.jsonText.toList ∧
      ofText? forest.jsonText = some forest ∧
      (∀ other : Forest, other.jsonText = forest.jsonText → other = forest) ∧
      (∀ text : String, forest.content.IsText text.toList → ofText? text = some forest) ∧
      ∀ (other : Forest) (text : String), forest.content.IsText text.toList →
        other.content.IsText text.toList → other = forest := by
  have unique (other : Forest) (text : String) (isText : forest.content.IsText text.toList)
      (isText' : other.content.IsText text.toList) : other = forest := by
    have read := ofText?_of_isText isText
    rw [ofText?_of_isText isText'] at read
    exact Option.some.inj read
  refine ⟨isText_jsonText forest, ofText?_of_isText (isText_jsonText forest), ?_,
    fun _ => ofText?_of_isText, unique⟩
  intro other same
  exact unique other forest.jsonText (isText_jsonText forest) (same ▸ isText_jsonText other)

theorem text_determines_forest_escaped :
    let forest : Forest := [⟨.block, some "\"\\\x01é", 3, [⟨.path, some "", 0, []⟩]⟩,
      ⟨.block, none, 4, []⟩]
    let indented := (Json.array (Node.jsonList forest)).pretty 0
    forest.jsonText = "[\x7b\"kind\":\"Block\",\"name\":\"\\\"\\\\\\u0001é\",\"line\":3," ++
        "\"children\":[\x7b\"kind\":\"Path\",\"name\":\"\",\"line\":0\x7d]\x7d," ++
        "\x7b\"kind\":\"Block\",\"line\":4\x7d]" ∧
      ofText? forest.jsonText = some forest ∧
      forest.content.IsText indented.toList ∧ ofText? indented = some forest := by
  intro forest indented
  have isText := Json.isText_pretty (.array (Node.jsonList forest)) [] (by simp)
  rw [List.append_nil] at isText
  obtain ⟨-, read, -, others, -⟩ := text_determines_forest forest
  exact ⟨by decide +kernel, read, isText, others indented isText⟩

end Forest

end KindDispatch
