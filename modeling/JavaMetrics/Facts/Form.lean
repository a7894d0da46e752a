import JavaMetrics.Facts.Basic
import JavaMetrics.Json.Members

set_option autoImplicit false

namespace JavaMetrics

open Json.Members

namespace Span

def toJson (s : Span) : Json :=
  .obj [("start_byte", .nat s.startByte), ("end_byte", .nat s.endByte),
    ("start_line", .nat s.startLine), ("start_col", .nat s.startCol),
    ("end_line", .nat s.endLine), ("end_col", .nat s.endCol)]

def ofJson? : Json → Option Span := Json.toRecord? do
  return ⟨← required "start_byte" Json.toNat?, ← required "end_byte" Json.toNat?,
    ← required "start_line" Json.toNat?, ← required "start_col" Json.toNat?,
    ← required "end_line" Json.toNat?, ← required "end_col" Json.toNat?⟩

end Span

namespace ClassKind

def ofText? : String → Option ClassKind
  | "class" => some plain
  | "enum" => some enumeration
  | "record" => some record
  | _ => none

theorem ofText?_text (k : ClassKind) : ofText? k.text = some k := by cases k <;> rfl

def toJson (k : ClassKind) : Json := .str k.text

def ofJson? : Json → Option ClassKind := Json.toChoice? ofText?

end ClassKind

namespace Import

def toJson (i : Import) : Json :=
  .obj [("path", .str i.path), ("is_static", .bool i.isStatic),
    ("is_wildcard", .bool i.isWildcard), ("line", .nat i.line)]

def ofJson? : Json → Option Import := Json.toRecord? do
  return ⟨← required "path" Json.toText?, ← required "is_static" Json.toBool?,
    ← required "is_wildcard" Json.toBool?, ← required "line" Json.toNat?⟩

end Import

namespace FieldDecl

def toJson (f : FieldDecl) : Json :=
  .obj [("name", .str f.name), ("type_name", .str f.typeName), ("line", .nat f.line)]

def ofJson? : Json → Option FieldDecl := Json.toRecord? do
  return ⟨← required "name" Json.toText?, ← required "type_name" Json.toText?,
    ← required "line" Json.toNat?⟩

end FieldDecl

namespace Parameter

def toJson (p : Parameter) : Json := .obj [("name", .str p.name), ("type_name", .str p.typeName)]

def ofJson? : Json → Option Parameter := Json.toRecord? do
  return ⟨← required "name" Json.toText?, ← required "type_name" Json.toText?⟩

end Parameter

namespace Receiver

def toJson : Receiver → Json
  | implicit => .obj [("kind", .str "implicit")]
  | this => .obj [("kind", .str "this")]
  | super => .obj [("kind", .str "super")]
  | name t => .obj [("kind", .str "name"), ("text", .str t)]
  | path t => .obj [("kind", .str "path"), ("text", .str t)]
  | expression => .obj [("kind", .str "expression")]

def ofParts? (kind : String) (text : Option Json) : Option Receiver :=
  let plain (r : Receiver) : Option Receiver :=
    match text with
    | none | some .null => some r
    | _ => none
  match kind with
  | "implicit" => plain implicit
  | "this" => plain this
  | "super" => plain super
  | "expression" => plain expression
  | "name" => (text.bind Json.toText?).map name
  | "path" => (text.bind Json.toText?).map path
  | _ => none

def ofJson? : Json → Option Receiver
  | .obj fields => do ofParts? (← (fields.lookup "kind").bind Json.toName?) (fields.lookup "text")
  | .arr [kind, text] => do ofParts? (← kind.toName?) (some text)
  | _ => none

end Receiver

namespace Call

def toJson (c : Call) : Json :=
  .obj [("name", .str c.name), ("scope", c.receiver.toJson), ("line", .nat c.line)]

def ofJson? : Json → Option Call := Json.toRecord? do
  return ⟨← required "name" Json.toText?, ← required "scope" Receiver.ofJson?,
    ← required "line" Json.toNat?⟩

end Call

namespace Decisions

def toJson (d : Decisions) : Json :=
  .obj [("if_count", .nat d.ifs), ("loop_count", .nat d.loops), ("case_count", .nat d.cases),
    ("ternary_count", .nat d.ternaries), ("catch_count", .nat d.catches)]

def ofJson? : Json → Option Decisions := Json.toRecord? do
  return ⟨← required "if_count" Json.toNat?, ← required "loop_count" Json.toNat?,
    ← required "case_count" Json.toNat?, ← required "ternary_count" Json.toNat?,
    ← required "catch_count" Json.toNat?⟩

end Decisions

namespace Body

def toJson (b : Body) : Json :=
  .obj [("control_flow", b.decisions.toJson), ("calls", .ofList Call.toJson b.calls),
    ("field_refs", .strs b.fieldRefs), ("instantiations", .strs b.instantiations),
    ("casts", .strs b.casts), ("local_types", .ofDict .str b.localTypes)]

def ofJson? : Json → Option Body := Json.toRecord? do
  return ⟨← required "control_flow" Decisions.ofJson?,
    ← required "calls" (Json.toList? Call.ofJson?),
    ← required "field_refs" (Json.toList? Json.toText?),
    ← required "instantiations" (Json.toList? Json.toText?),
    ← required "casts" (Json.toList? Json.toText?),
    ← required "local_types" (Json.toDict? Json.toText?)⟩

end Body

namespace Method

def toJson (m : Method) : Json :=
  .obj [("name", .str m.name), ("parameters", .ofList Parameter.toJson m.parameters),
    ("return_type", .ofOption .str m.returnType), ("span", m.span.toJson), ("body", m.body.toJson)]

def ofJson? : Json → Option Method := Json.toRecord? do
  return ⟨← required "name" Json.toText?,
    ← required "parameters" (Json.toList? Parameter.ofJson?),
    ← optional "return_type" Json.toText?, ← required "span" Span.ofJson?,
    ← required "body" Body.ofJson?⟩

end Method

namespace ClassFacts

def toJson (u : ClassFacts) : Json :=
  .obj [("path", .str u.path), ("package", .ofOption .str u.package), ("class_name", .str u.name),
    ("kind", u.kind.toJson), ("imports", .ofList Import.toJson u.imports),
    ("superclass", .ofOption .str u.superclass), ("interfaces", .strs u.interfaces),
    ("nested_types", .strs u.nestedTypes), ("type_parameters", .strs u.typeParameters),
    ("fields", .ofList FieldDecl.toJson u.fields), ("methods", .ofList Method.toJson u.methods),
    ("constructors", .ofList Method.toJson u.constructors),
    ("initializers", u.initializers.toJson), ("span", u.span.toJson)]

def ofJson? : Json → Option ClassFacts := Json.toRecord? do
  return ⟨← required "path" Json.toText?, ← optional "package" Json.toText?,
    ← required "class_name" Json.toText?, ← required "kind" ClassKind.ofJson?,
    ← required "imports" (Json.toList? Import.ofJson?), ← optional "superclass" Json.toText?,
    ← required "interfaces" (Json.toList? Json.toText?),
    ← required "nested_types" (Json.toList? Json.toText?),
    ← required "type_parameters" (Json.toList? Json.toText?),
    ← required "fields" (Json.toList? FieldDecl.ofJson?),
    ← required "methods" (Json.toList? Method.ofJson?),
    ← required "constructors" (Json.toList? Method.ofJson?),
    ← required "initializers" Body.ofJson?, ← required "span" Span.ofJson?⟩

end ClassFacts

end JavaMetrics
