import JavaMetrics.Coupling.Project
import JavaMetrics.Json.Members

set_option autoImplicit false

namespace JavaMetrics

open Json.Members

namespace TypeRef

def toJson : TypeRef → Json
  | resolved n => .obj [("kind", .str "resolved"), ("value", .str n)]
  | ambiguous s cs =>
    .obj [("kind", .str "ambiguous"),
      ("value", .obj [("simple_name", .str s), ("candidates", .strs cs)])]

def ofParts? (kind : String) (value : Json) : Option TypeRef :=
  match kind with
  | "resolved" => value.toText?.map resolved
  | "ambiguous" => value.toRecord? do
      return ambiguous (← required "simple_name" Json.toText?)
        (← required "candidates" (Json.toList? Json.toText?))
  | _ => none

def ofJson? : Json → Option TypeRef
  | .obj fields => do
    ofParts? (← (fields.lookup "kind").bind Json.toName?) (← fields.lookup "value")
  | .arr [kind, value] => do ofParts? (← kind.toName?) value
  | _ => none

end TypeRef

namespace Dependency

def toJson (d : Dependency) : Json := .obj [("from", .str d.source), ("to", d.target.toJson)]

def ofJson? : Json → Option Dependency := Json.toRecord? do
  return ⟨← required "from" Json.toText?, ← required "to" TypeRef.ofJson?⟩

end Dependency

namespace AmbiguityContext

def ofText? : String → Option AmbiguityContext
  | "superclass" => some superclass
  | "dependency" => some dependency
  | _ => none

theorem ofText?_text (c : AmbiguityContext) : ofText? c.text = some c := by cases c <;> rfl

end AmbiguityContext

namespace AmbiguityNote

def toJson (n : AmbiguityNote) : Json :=
  .obj [("class_name", .str n.className), ("simple_name", .str n.simpleName),
    ("candidates", .strs n.candidates), ("context", .str n.context.text)]

def ofJson? : Json → Option AmbiguityNote := Json.toRecord? do
  return ⟨← required "class_name" Json.toText?, ← required "simple_name" Json.toText?,
    ← required "candidates" (Json.toList? Json.toText?),
    ← required "context" (Json.toChoice? AmbiguityContext.ofText?)⟩

end AmbiguityNote

end JavaMetrics
