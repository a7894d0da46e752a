import JavaMetrics.Facts.Basic
import JavaMetrics.Syntax.Node
import JavaMetrics.Text.Letters
import JavaMetrics.Text.Source

/-!
The facts of one executable body. The nodes of a body are visited parents first; on the way the
open scopes are kept, innermost first, each with the depth of the node that opened it. A scope
is closed as soon as the walk is back at that depth, so that at every node the open scopes are
those of the nodes around it. An identifier that names a field counts as a use of the field
when it stands for a value and no open scope declares it.
-/

set_option autoImplicit false

namespace JavaMetrics

def Text.Source.textOf (s : Text.Source) (n : Node) : String := s.text n.start n.stop

def Text.Source.lineOf (s : Text.Source) (n : Node) : Nat := (s.position n.start).1

def Text.Source.spanOf (s : Text.Source) (n : Node) : Span :=
  let (startLine, startCol) := s.position n.start
  let (endLine, endCol) := s.position n.stop
  { startByte := n.start, endByte := n.stop, startLine, startCol, endLine, endCol }

def Kind.opensScope : Kind → Bool
  | block | constructorBody | forStatement | enhancedForStatement | catchClause
  | tryWithResourcesStatement | switchBlock | lambdaExpression => true
  | _ => false

def Node.decision (n : Node) : Decisions :=
  match n.kind with
  | .ifStatement => { ifs := 1 }
  | .forStatement | .enhancedForStatement | .whileStatement | .doStatement => { loops := 1 }
  | .switchLabel =>
    if (n.children.head?).any (·.kind == .defaultKeyword) then {} else { cases := 1 }
  | .ternaryExpression => { ternaries := 1 }
  | .catchClause => { catches := 1 }
  | _ => {}

def Node.decisions (n : Node) : Decisions :=
  n.preorder.foldl (fun d m => d.add m.decision) {}

/-- A node on the walk, with its depth, its parent and whether it is the first named child. -/
structure Visit where
  depth : Nat
  parent : Option Node
  leads : Bool
  node : Node

namespace Node

mutual

def visits (depth : Nat) (parent : Option Node) (leads : Bool) : Node → List Visit
  | mk k r s e cs =>
    ⟨depth, parent, leads, mk k r s e cs⟩ :: visitsAll (depth + 1) (mk k r s e cs) false cs

def visitsAll (depth : Nat) (parent : Node) (named : Bool) : List Node → List Visit
  | [] => []
  | n :: ns =>
    visits depth (some parent) (n.kind.isNamed && !named) n ++
      visitsAll depth parent (named || n.kind.isNamed) ns

end

end Node

/-- Whether an identifier stands for a value, and not for a method, a declaration, a label or a
member of something else. -/
def Visit.isValue (v : Visit) : Bool :=
  match v.parent with
  | none => false
  | some p =>
    match p.kind with
    | .methodInvocation | .variableDeclarator | .formalParameter | .catchFormalParameter
    | .enhancedForStatement | .resource => v.node.role != some .name
    | .fieldAccess => v.node.role != some .member
    | .lambdaExpression | .inferredParameters | .labeledStatement | .breakStatement
    | .continueStatement | .scopedIdentifier | .annotationMarker | .annotationWithArguments => false
    | .methodReference => v.leads
    | _ => true

namespace Node

mutual

def isNamePath : Node → Bool
  | mk k _ _ _ cs =>
    match k with
    | .identifier | .thisRef | .scopedIdentifier => true
    | .fieldAccess =>
      objectIsPath cs && ((cs.find? (·.role == some .member)).any (·.kind == .identifier))
    | _ => false

def objectIsPath : List Node → Bool
  | [] => false
  | n :: ns => if n.role == some .object then n.isNamePath else objectIsPath ns

end

end Node

def withoutBlanks (s : String) : String := String.ofList (s.toList.filter (!Text.isBlank ·))

def receiverOf (src : Text.Source) : Option Node → Receiver
  | none => .implicit
  | some o =>
    match o.kind with
    | .thisRef => .this
    | .superRef => .super
    | .identifier => .name (src.textOf o)
    | .fieldAccess | .scopedIdentifier =>
      if o.isNamePath then .path (withoutBlanks (src.textOf o)) else .expression
    | _ => .expression

structure Scope where
  depth : Nat
  names : List String
deriving Inhabited

/-- The state of the walk. The last scope is that of the parameters and stays open. -/
structure Collector where
  body : Body := {}
  scopes : List Scope := [⟨0, []⟩]

namespace Collector

def declare (c : Collector) (x : String) : Collector :=
  match c.scopes with
  | s :: rest => { c with scopes := { s with names := x :: s.names } :: rest }
  | [] => c

def isDeclared (c : Collector) (x : String) : Bool := c.scopes.any (·.names.contains x)

def closeTo (depth : Nat) : List Scope → List Scope
  | s :: t :: rest => if depth ≤ s.depth then closeTo depth (t :: rest) else s :: t :: rest
  | ss => ss

def addLocal (c : Collector) (x : String) (type : Option String) : Collector :=
  let c := match type with
    | some t => { c with body := { c.body with localTypes := c.body.localTypes.insert x t } }
    | none => c
  c.declare x

def addFieldRef (c : Collector) (x : String) : Collector :=
  { c with body := { c.body with fieldRefs := insertName x c.body.fieldRefs } }

def writtenType (declared : String) : Option String :=
  if declared == "var" then none else some declared

/-- The type of a declared variable. One declared with `var` has a type only when it is
initialized with a new object. -/
def variableType (src : Text.Source) (declared : String) (declarator : Node) : Option String :=
  if declared == "var" then
    match declarator.child? .value with
    | some v =>
      if v.kind == .objectCreationExpression then (v.child? .type).map src.textOf else none
    | none => none
  else some declared

def lambdaNames (src : Text.Source) (params : Node) : List String :=
  if params.kind == .identifier then [src.textOf params]
  else params.namedChildren.filterMap fun p =>
    if p.kind == .identifier then some (src.textOf p) else (p.child? .name).map src.textOf

def visit (src : Text.Source) (fields : List String) (c : Collector) (v : Visit) : Collector :=
  let n := v.node
  match n.kind with
  | .methodInvocation =>
    match n.child? .name with
    | some name =>
      let call := ⟨src.textOf name, receiverOf src (n.child? .object), src.lineOf n⟩
      { c with body := { c.body with calls := c.body.calls ++ [call] } }
    | none => c
  | .objectCreationExpression =>
    match n.child? .type with
    | some t =>
      { c with body := { c.body with instantiations := c.body.instantiations ++ [src.textOf t] } }
    | none => c
  | .castExpression =>
    { c with body := { c.body with casts := c.body.casts ++ (n.inRole .type).map src.textOf } }
  | .localVariableDeclaration =>
    let declared := ((n.child? .type).map src.textOf).getD ""
    (n.inRole .declarator).foldl (fun c d =>
      match d.child? .name with
      | some name => c.addLocal (src.textOf name) (variableType src declared d)
      | none => c) c
  | .enhancedForStatement | .resource =>
    match n.child? .type, n.child? .name with
    | some t, some name => c.addLocal (src.textOf name) (writtenType (src.textOf t))
    | _, _ => c
  | .catchFormalParameter =>
    match n.child? .name with
    | some name =>
      let caught := (n.named? .catchType).bind fun t => t.namedChildren.head?
      c.addLocal (src.textOf name) (caught.map src.textOf)
    | none => c
  | .lambdaExpression =>
    match n.child? .parameters with
    | some ps => (lambdaNames src ps).foldl declare c
    | none => c
  | .fieldAccess =>
    match n.child? .object, n.child? .member with
    | some o, some m =>
      let name := src.textOf m
      if o.kind == .thisRef && fields.contains name then c.addFieldRef name else c
    | _, _ => c
  | .identifier =>
    let name := src.textOf n
    if fields.contains name && v.isValue && !c.isDeclared name then c.addFieldRef name else c
  | _ => c

/-- Moves the walk to a node: scopes that end before it are closed, its own is opened. -/
def enter (c : Collector) (v : Visit) : Collector :=
  let open' := closeTo v.depth c.scopes
  { c with scopes := if v.node.kind.opensScope then ⟨v.depth, []⟩ :: open' else open' }

def step (src : Text.Source) (fields : List String) (c : Collector) (v : Visit) : Collector :=
  (c.enter v).visit src fields v

def walk (src : Text.Source) (fields : List String) (c : Collector) (parent : Option Node)
    (root : Node) : Collector :=
  (root.visits 0 parent false).foldl (step src fields)
    { c with scopes := c.scopes.drop (c.scopes.length - 1) }

end Collector

def Body.ofNode (src : Text.Source) (fields : List String) (parameters : List Parameter)
    (body : Option Node) : Body :=
  let start := parameters.foldl (fun c p => c.declare p.name) ({} : Collector)
  match body with
  | some n => { (start.walk src fields none n).body with decisions := n.decisions }
  | none => start.body

def Body.ofNodes (src : Text.Source) (fields : List String) (nodes : List (Node × Node)) : Body :=
  let all := nodes.foldl (fun c (p, n) => c.walk src fields (some p) n) ({} : Collector)
  { all.body with decisions := nodes.foldl (fun d (_, n) => d.add n.decisions) {} }

end JavaMetrics
