import KindDispatch.Json.Text
import KindDispatch.Node

/-!
# Forests in JSON

A node is an object of its kind, name, line and children; a missing name and an empty list of
children are left out.
-/

namespace KindDispatch

def Kind.json (kind : Kind) : Json := .string kind.name

namespace Node

mutual

def json : Node → Json
  | ⟨kind, name, line, children⟩ =>
    .object (("kind", kind.json) :: nameField name ++ ("line", .nat line) :: childrenField children)

def childrenField : List Node → List (String × Json)
  | [] => []
  | node :: rest => [("children", .array (json node :: jsonList rest))]

def jsonList : List Node → List Json
  | [] => []
  | node :: rest => json node :: jsonList rest

def nameField : Option String → List (String × Json)
  | none => []
  | some name => [("name", .string name)]

end

end Node

def Forest.jsonText (forest : Forest) : String := (Json.array (Node.jsonList forest)).compact

end KindDispatch
