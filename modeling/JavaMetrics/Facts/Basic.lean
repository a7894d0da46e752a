import JavaMetrics.Dict
import JavaMetrics.Text.Split

set_option autoImplicit false

namespace JavaMetrics

/-- A stretch of source text; lines and columns count from one. -/
structure Span where
  startByte : Nat := 0
  endByte : Nat := 0
  startLine : Nat := 0
  startCol : Nat := 0
  endLine : Nat := 0
  endCol : Nat := 0
deriving DecidableEq, Repr, Inhabited

namespace Span

def lines (first last : Nat) : Span := { startLine := first, startCol := 1, endLine := last, endCol := 1 }

def lineCount (s : Span) : Nat := s.endLine - s.startLine + 1

end Span

inductive ClassKind where
  | plain | enumeration | record
deriving DecidableEq, Repr, Inhabited

def ClassKind.text : ClassKind → String
  | plain => "class"
  | enumeration => "enum"
  | record => "record"

structure Import where
  path : String
  isStatic : Bool
  isWildcard : Bool
  line : Nat
deriving DecidableEq, Repr, Inhabited

def lastSegment (s : String) : String := Text.afterLast '.' s

def Import.simpleName (i : Import) : String := lastSegment i.path

def Import.isSingle (i : Import) : Bool := !i.isStatic && !i.isWildcard

structure FieldDecl where
  name : String
  typeName : String
  line : Nat
deriving DecidableEq, Repr, Inhabited

structure Parameter where
  name : String
  typeName : String
deriving DecidableEq, Repr, Inhabited

inductive Receiver where
  | implicit
  | this
  | super
  | name (text : String)
  | path (text : String)
  | expression
deriving DecidableEq, Repr, Inhabited

def Receiver.isInternal : Receiver → Bool
  | implicit | this => true
  | _ => false

structure Call where
  name : String
  receiver : Receiver
  line : Nat
deriving DecidableEq, Repr, Inhabited

structure Decisions where
  ifs : Nat := 0
  loops : Nat := 0
  cases : Nat := 0
  ternaries : Nat := 0
  catches : Nat := 0
deriving DecidableEq, Repr, Inhabited

namespace Decisions

def total (d : Decisions) : Nat := d.ifs + d.loops + d.cases + d.ternaries + d.catches

def cyclomatic (d : Decisions) : Nat := 1 + d.total

def add (d e : Decisions) : Decisions where
  ifs := d.ifs + e.ifs
  loops := d.loops + e.loops
  cases := d.cases + e.cases
  ternaries := d.ternaries + e.ternaries
  catches := d.catches + e.catches

theorem total_add (d e : Decisions) : (d.add e).total = d.total + e.total := by
  simp only [add, total]; omega

end Decisions

structure Body where
  decisions : Decisions := {}
  calls : List Call := []
  fieldRefs : List String := []
  instantiations : List String := []
  casts : List String := []
  localTypes : Dict String := .empty
deriving DecidableEq, Inhabited

def Body.externalCalls (b : Body) : List Call := b.calls.filter (!·.receiver.isInternal)

def Body.internalCalls (b : Body) : List Call := b.calls.filter (·.receiver.isInternal)

/-- A method or a constructor; a constructor has no return type. -/
structure Method where
  name : String
  parameters : List Parameter := []
  returnType : Option String := none
  span : Span := .lines 1 1
  body : Body := {}
deriving DecidableEq, Inhabited

namespace Method

def loc (m : Method) : Nat := m.span.lineCount

def returnsVoid (m : Method) : Bool := m.returnType == some "void"

def variableType (m : Method) (x : String) : Option String :=
  match m.parameters.find? (·.name == x) with
  | some p => some p.typeName
  | none => m.body.localTypes.get? x

end Method

structure ClassFacts where
  path : String
  package : Option String := none
  name : String
  kind : ClassKind := .plain
  imports : List Import := []
  superclass : Option String := none
  interfaces : List String := []
  nestedTypes : List String := []
  /-- Type variables of the class and of its methods. -/
  typeParameters : List String := []
  fields : List FieldDecl := []
  methods : List Method := []
  constructors : List Method := []
  /-- Field initializers, initializer blocks and enum constants. -/
  initializers : Body := {}
  span : Span := .lines 1 1
deriving DecidableEq, Inhabited

namespace ClassFacts

/-- Package and class name; an empty package counts as none. -/
def qualify (package : Option String) (name : String) : String :=
  match package with
  | some p => if p.isEmpty then name else p ++ "." ++ name
  | none => name

def qualifiedName (u : ClassFacts) : String := qualify u.package u.name

def callables (u : ClassFacts) : List Method := u.methods ++ u.constructors

def bodies (u : ClassFacts) : List Body := u.callables.map (·.body) ++ [u.initializers]

def field? (u : ClassFacts) (x : String) : Option FieldDecl := u.fields.find? (·.name == x)

def loc (u : ClassFacts) : Nat := u.span.lineCount

end ClassFacts

end JavaMetrics
