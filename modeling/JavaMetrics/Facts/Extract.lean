import JavaMetrics.Facts.Collect
import JavaMetrics.Path

set_option autoImplicit false

namespace JavaMetrics

inductive ExtractionError where
  | noDeclaration
  | unnamedType
  | unnamedMember (kind : Kind)
deriving DecidableEq, Repr

def ExtractionError.message : ExtractionError → String
  | noDeclaration => "no class, enum or record declaration"
  | unnamedType => "type declaration without a name"
  | unnamedMember .methodDeclaration => "method_declaration without a name"
  | unnamedMember .constructorDeclaration => "constructor_declaration without a name"
  | unnamedMember _ => "compact_constructor_declaration without a name"

namespace Kind

def isAnalyzable : Kind → Bool
  | classDeclaration | enumDeclaration | recordDeclaration => true
  | _ => false

def isTypeDeclaration : Kind → Bool
  | classDeclaration | enumDeclaration | recordDeclaration | interfaceDeclaration
  | annotationTypeDeclaration => true
  | _ => false

def isType : Kind → Bool
  | typeIdentifier | scopedTypeIdentifier | genericType | arrayType | integralType
  | floatingPointType | booleanType | annotatedType => true
  | _ => false

def isName : Kind → Bool
  | identifier | scopedIdentifier => true
  | _ => false

end Kind

namespace Node

/-- The members of a class body; those of an enum behind its constants are included. -/
def members (decl : Node) : List Node :=
  match decl.child? .body with
  | some b => b.namedChildren.flatMap fun c =>
      if c.kind == .enumBodyDeclarations then c.namedChildren else [c]
  | none => []

variable (src : Text.Source)

def roleText (n : Node) (f : Field) : Option String := (n.child? f).map src.textOf

def typeParameterNames (decl : Node) : List String :=
  match decl.child? .typeParameters with
  | some ps => ps.namedChildren.filterMap fun p =>
      if p.kind == .typeParameter then
        (p.namedChildren.find? fun c => c.kind == .typeIdentifier || c.kind == .identifier).map
          src.textOf
      else none
  | none => []

def parameter? (p : Node) : Option Parameter :=
  match p.kind with
  | .formalParameter =>
    some ⟨(p.roleText src .name).getD "", (p.roleText src .type).getD ""⟩
  | .spreadParameter =>
    let type := (p.namedChildren.find? (·.kind.isType)).map fun t => src.textOf t ++ "..."
    let name := (p.named? .variableDeclarator).bind fun d => d.roleText src .name
    some ⟨name.getD "", type.getD ""⟩
  | _ => none

def parametersOf (decl : Node) : List Parameter :=
  match decl.child? .parameters with
  | some ps => ps.namedChildren.filterMap (parameter? src)
  | none => []

def fieldsOf (member : Node) : List FieldDecl :=
  if member.kind == .fieldDeclaration then
    let type := (member.roleText src .type).getD ""
    (member.inRole .declarator).filterMap fun d =>
      (d.roleText src .name).map fun name => ⟨name, type, src.lineOf d⟩
  else []

/-- The nodes of a member that run when the class or an object of it is set up, with their
parents. -/
def initializersOf (member : Node) : List (Node × Node) :=
  match member.kind with
  | .fieldDeclaration =>
    (member.inRole .declarator).filterMap fun d => (d.child? .value).map fun v => (d, v)
  | .block | .staticInitializer => [(member, member)]
  | .enumConstant =>
    (member.namedChildren.filter fun c => c.kind == .argumentList || c.kind == .classBody).map
      fun c => (member, c)
  | _ => []

def nestedTypeOf (member : Node) : Option String :=
  if member.kind.isTypeDeclaration then member.roleText src .name else none

end Node

def Import.ofNode? (src : Text.Source) (n : Node) : Option Import :=
  let path := ((n.children.filter (·.kind.isName)).getLast?.map src.textOf).getD ""
  if path.isEmpty then none
  else some
    { path
      isStatic := n.children.any (·.kind == .staticKeyword)
      isWildcard := n.children.any (·.kind == .asterisk)
      line := src.lineOf n }

def Import.sameTarget (i j : Import) : Bool :=
  i.path == j.path && i.isStatic == j.isStatic && i.isWildcard == j.isWildcard

/-- The imports of a file in text order; a repeated one counts once. -/
def importsOf (src : Text.Source) (root : Node) : List Import :=
  let all := (root.preorder.filter (·.kind == .importDeclaration)).filterMap (Import.ofNode? src)
  all.foldl (fun seen i => if seen.any i.sameTarget then seen else seen ++ [i]) []

def packageOf (src : Text.Source) (root : Node) : Option String :=
  (root.preorder.filter (·.kind == .packageDeclaration)).findSome? fun n =>
    (n.children.find? (·.kind.isName)).map src.textOf

def analyzedClass? (src : Text.Source) (path : String) (root : Node) : Option Node :=
  let candidates := root.namedChildren.filter (·.kind.isAnalyzable)
  match candidates.find? fun n => n.roleText src .name == some (Path.stem path) with
  | some n => some n
  | none => candidates.head?

def ClassKind.ofNode (n : Node) : ClassKind :=
  match n.kind with
  | .enumDeclaration => .enumeration
  | .recordDeclaration => .record
  | _ => .plain

/-- A method or constructor. The components of the record are the parameters of a compact
constructor. -/
def Method.ofNode (src : Text.Source) (fields : List String) (components : List Parameter)
    (n : Node) : Except ExtractionError Method :=
  match n.roleText src .name with
  | none => .error (.unnamedMember n.kind)
  | some name =>
    let parameters :=
      if n.kind == .compactConstructorDeclaration then components else n.parametersOf src
    .ok
      { name, parameters
        returnType := if n.kind == .methodDeclaration then n.roleText src .type else none
        span := src.spanOf n
        body := Body.ofNode src fields parameters (n.child? .body) }

def addNew (xs ys : List String) : List String :=
  ys.foldl (fun xs y => if xs.contains y then xs else xs ++ [y]) xs

namespace ClassFacts

def ofDeclaration (src : Text.Source) (path : String) (root decl : Node) :
    Except ExtractionError ClassFacts := do
  let some name := decl.roleText src .name | throw .unnamedType
  let kind := ClassKind.ofNode decl
  let span := src.spanOf decl
  let components := if kind == .record then decl.parametersOf src else []
  let members := decl.members
  let fields := components.map (fun p => (⟨p.name, p.typeName, span.startLine⟩ : FieldDecl)) ++
    members.flatMap (Node.fieldsOf src)
  let names := fields.map (·.name)
  let methodNodes := members.filter (·.kind == .methodDeclaration)
  let constructorNodes := members.filter fun m =>
    m.kind == .constructorDeclaration || m.kind == .compactConstructorDeclaration
  let methods ← methodNodes.mapM (Method.ofNode src names [])
  let constructors ← constructorNodes.mapM (Method.ofNode src names components)
  return {
    path, name, kind, span, fields, methods, constructors
    package := packageOf src root
    imports := importsOf src root
    superclass := (decl.child? .superclass).bind fun s => (s.namedChildren.head?).map src.textOf
    interfaces := match (decl.child? .interfaces).bind fun i => i.namedChildren.head? with
      | some list => list.namedChildren.map src.textOf
      | none => []
    nestedTypes := members.filterMap (Node.nestedTypeOf src)
    typeParameters := addNew (decl.typeParameterNames src)
      (methodNodes.flatMap (Node.typeParameterNames src))
    initializers := Body.ofNodes src names (members.flatMap Node.initializersOf) }

def ofTree (src : Text.Source) (path : String) (root : Node) : Except ExtractionError ClassFacts :=
  match analyzedClass? src path root with
  | some decl => ofDeclaration src path root decl
  | none => .error .noDeclaration

end ClassFacts

end JavaMetrics
