import JavaMetrics.Facts.Basic
import JavaMetrics.TypeName.Normalize

set_option autoImplicit false

namespace JavaMetrics

inductive TypeRef where
  | resolved (name : String)
  | ambiguous (simpleName : String) (candidates : List String)
deriving DecidableEq, Repr, Inhabited

namespace TypeRef

def primary : TypeRef → String
  | resolved n => n
  | ambiguous s cs => cs.head?.getD s

def isAmbiguous : TypeRef → Bool
  | resolved _ => false
  | ambiguous _ _ => true

def candidates : TypeRef → List String
  | resolved n => [n]
  | ambiguous _ cs => cs

def text : TypeRef → String
  | resolved n => n
  | ambiguous _ cs => " | ".intercalate cs ++ " (ambiguous)"

def simpleName : TypeRef → String
  | resolved n => lastSegment n
  | ambiguous s _ => s

def member (t : TypeRef) (rest : String) : TypeRef :=
  match t with
  | resolved n => resolved (n ++ "." ++ rest)
  | ambiguous s cs => ambiguous (s ++ "." ++ rest) (cs.map (· ++ "." ++ rest))

end TypeRef

structure Resolver where
  package : Option String
  selfName : String
  className : String
  nested : List String
  typeParameters : List String
  /-- Types imported one by one, by simple name; a later import hides an earlier one. -/
  explicit : Dict String
  onDemand : List String

namespace Resolver

def ofFacts (u : ClassFacts) : Resolver :=
  let package := u.package.filter (!·.isEmpty)
  let nonStatic := u.imports.filter (!·.isStatic)
  { package
    selfName := u.qualifiedName
    className := u.name
    nested := u.nestedTypes
    typeParameters := u.typeParameters
    explicit := .ofList ((nonStatic.filter (!·.isWildcard)).map fun i => (i.simpleName, i.path))
    onDemand := (nonStatic.filter (·.isWildcard)).foldl (fun ps i =>
      if some i.path == package || ps.contains i.path then ps else ps ++ [i.path]) [] }

def qualify (r : Resolver) (name : String) : String :=
  match r.package with
  | some p => p ++ "." ++ name
  | none => name

def isSelf (r : Resolver) (name : String) : Bool :=
  name == r.selfName || Text.startsWith name (r.selfName ++ ".")

def resolveSimple (r : Resolver) (name : String) : Option TypeRef :=
  if r.typeParameters.contains name then none
  else if name == r.className then some (.resolved r.selfName)
  else if r.nested.contains name then some (.resolved (r.selfName ++ "." ++ name))
  else
    match r.explicit.get? name with
    | some path => some (.resolved path)
    | none =>
      if TypeName.isImplicit name then none
      else
        let here := r.qualify name
        if r.onDemand.isEmpty then some (.resolved here)
        else some (.ambiguous name (here :: r.onDemand.map (· ++ "." ++ name)))

def splitHead (name : String) : String × Option String :=
  let head := name.toList.takeWhile (· != '.')
  match name.toList.drop head.length with
  | _ :: rest => (String.ofList head, some (String.ofList rest))
  | [] => (name, none)

def resolveName (r : Resolver) (name : String) : Option TypeRef :=
  match splitHead name with
  | (_, none) => r.resolveSimple name
  | (head, some rest) =>
    if TypeName.startsUpper head then (r.resolveSimple head).map (·.member rest)
    else if Text.startsWith name TypeName.javaLang && TypeName.isImplicit name &&
        !r.explicit.values.contains name then none
    else some (.resolved name)

/-- What a written type refers to outside the class; none for primitive types, type variables,
types that are always there, and the class itself. -/
def resolve (r : Resolver) (raw : String) : Option TypeRef :=
  match TypeName.normalize raw with
  | none => none
  | some name =>
    if TypeName.isPrimitive name then none
    else (r.resolveName name).filter fun t => !r.isSelf t.primary

end Resolver

def ClassFacts.resolve (u : ClassFacts) (raw : String) : Option TypeRef :=
  (Resolver.ofFacts u).resolve raw

end JavaMetrics
