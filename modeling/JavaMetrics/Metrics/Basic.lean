import JavaMetrics.Coupling.References

set_option autoImplicit false

namespace JavaMetrics

structure ClassMetrics where
  className : String
  qualifiedName : String
  package : Option String
  filePath : String
  loc : Nat
  wmc : Nat
  dit : Nat
  noc : Nat
  cbo : Nat
  rfc : Nat
  lcom : Float
  methodCount : Nat
  attributeCount : Nat
  dependenciesIn : List String := []
  dependenciesOut : List String := []
  inDegree : Nat := 0
  outDegree : Nat := 0
deriving Inhabited

def sumOf {α : Type} (f : α → Nat) : List α → Nat
  | [] => 0
  | a :: rest => f a + sumOf f rest

theorem sumOf_append {α : Type} (f : α → Nat) (xs ys : List α) :
    sumOf f (xs ++ ys) = sumOf f xs + sumOf f ys := by
  induction xs with
  | nil => simp [sumOf]
  | cons x xs ih => simp only [List.cons_append, sumOf, ih]; omega

namespace ClassFacts

def weightedMethods (u : ClassFacts) : Nat :=
  sumOf (fun m => m.body.decisions.cyclomatic) u.callables

def inheritanceDepth (u : ClassFacts) : Nat := if u.superclass.isSome then 1 else 0

/-- The written types of fields, signatures and created objects. -/
def couplingReferences (u : ClassFacts) : List String :=
  u.fields.map (·.typeName) ++
  u.callables.flatMap (fun m => m.parameters.map (·.typeName) ++ m.returnType.toList) ++
  u.bodies.flatMap (·.instantiations)

def coupledTypes (u : ClassFacts) : List String :=
  let r := Resolver.ofFacts u
  sortedNames ((u.couplingReferences.filterMap r.resolve).map (·.primary))

def invokedNames (u : ClassFacts) : List String :=
  sortedNames (u.callables.flatMap fun m => m.body.externalCalls.map (·.name))

def response (u : ClassFacts) : Nat :=
  u.methods.length + u.constructors.length + u.invokedNames.length

end ClassFacts

def shareField (a b : List String) : Bool := a.any b.contains

def countPairs {α : Type} (test : α → α → Bool) : List α → Nat
  | [] => 0
  | a :: rest => (rest.filter (test a)).length + countPairs test rest

/-- Pairs without a common field less pairs with one, never below zero. -/
def cohesionGap (uses : List (List String)) : Nat :=
  countPairs (fun a b => !shareField a b) uses - countPairs shareField uses

namespace ClassFacts

def fieldUses (u : ClassFacts) : List (List String) := u.methods.map (·.body.fieldRefs)

def lackOfCohesion (u : ClassFacts) : Nat := cohesionGap u.fieldUses

end ClassFacts

def ClassMetrics.ofFacts (u : ClassFacts) : ClassMetrics where
  className := u.name
  qualifiedName := u.qualifiedName
  package := u.package
  filePath := u.path
  loc := u.loc
  wmc := u.weightedMethods
  dit := u.inheritanceDepth
  noc := 0
  cbo := u.coupledTypes.length
  rfc := u.response
  lcom := Float.ofNat u.lackOfCohesion
  methodCount := u.methods.length
  attributeCount := u.fields.length

end JavaMetrics
