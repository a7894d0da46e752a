import JavaMetrics.TypeName.Resolve

set_option autoImplicit false

namespace JavaMetrics

structure Dependency where
  source : String
  target : TypeRef
deriving DecidableEq, Repr, Inhabited

namespace ClassFacts

/-- The written type that declares a called method, as far as the receiver tells. A variable hides
a field, and a field hides a type of the same name. -/
def receiverType (u : ClassFacts) (m : Option Method) : Receiver → Option String
  | .name x =>
    match m.bind (·.variableType x) with
    | some t => some t
    | none =>
      match u.field? x with
      | some f => some f.typeName
      | none => if TypeName.startsUpper x then some x else none
  | .path p =>
    let own := String.ofList (p.toList.drop 5)
    if Text.startsWith p "this." && !own.toList.contains '.' then (u.field? own).map (·.typeName)
    else if TypeName.startsUpper (lastSegment p) then some p
    else none
  | _ => none

def calledTypes (u : ClassFacts) (m : Option Method) (b : Body) : List String :=
  b.calls.filterMap fun c => u.receiverType m c.receiver

def references (u : ClassFacts) : List String :=
  (u.imports.filter (·.isSingle)).map (·.path) ++
  u.superclass.toList ++ u.interfaces ++
  u.fields.map (·.typeName) ++
  u.methods.flatMap (fun m => m.returnType.toList ++ m.parameters.map (·.typeName)) ++
  u.constructors.flatMap (fun m => m.parameters.map (·.typeName)) ++
  u.bodies.flatMap (·.instantiations) ++
  u.bodies.flatMap (·.casts) ++
  u.callables.flatMap (fun m => u.calledTypes (some m) m.body) ++
  u.calledTypes none u.initializers

end ClassFacts

/-- Adds a target under its name; a resolved one replaces an ambiguous one. -/
def addTarget (targets : Dict TypeRef) (t : TypeRef) : Dict TypeRef :=
  match targets.get? t.primary with
  | some old => if !old.isAmbiguous || t.isAmbiguous then targets else targets.insert t.primary t
  | none => targets.insert t.primary t

def collectTargets (ts : List TypeRef) : Dict TypeRef := ts.foldl addTarget .empty

namespace ClassFacts

def dependencies (u : ClassFacts) : List Dependency :=
  let r := Resolver.ofFacts u
  (collectTargets (u.references.filterMap r.resolve)).values.map fun t => ⟨r.selfName, t⟩

def superclassRef (u : ClassFacts) : Option TypeRef := u.superclass.bind u.resolve

end ClassFacts

end JavaMetrics
