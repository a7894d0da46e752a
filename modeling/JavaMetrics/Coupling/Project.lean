import JavaMetrics.Coupling.Graph
import JavaMetrics.Metrics.Basic

/-!
What the classes of a project are to each other: how many children each has and which classes it
depends on. A reference that may stand for several classes of the project counts for all of them
and is noted; a dependency whose first candidate is in the project stands for that class alone.
-/

set_option autoImplicit false

namespace JavaMetrics

structure ClassLinks where
  name : String
  superclass : Option TypeRef := none
  dependencies : List Dependency := []
deriving Inhabited

def ClassLinks.ofFacts (u : ClassFacts) : ClassLinks :=
  ⟨u.qualifiedName, u.superclassRef, u.dependencies⟩

inductive AmbiguityContext where
  | superclass | dependency
deriving DecidableEq, Repr, Inhabited

def AmbiguityContext.text : AmbiguityContext → String
  | superclass => "superclass"
  | dependency => "dependency"

/-- A reference that stands for several classes of the project. -/
structure AmbiguityNote where
  className : String
  simpleName : String
  candidates : List String
  context : AmbiguityContext
deriving DecidableEq, Repr, Inhabited

structure ProjectMetrics where
  children : Dict Nat
  graph : ClassGraph
  ambiguities : List AmbiguityNote
deriving Inhabited

def ClassGraph.candidatesIn (g : ClassGraph) (t : TypeRef) : List String :=
  t.candidates.filter g.contains

/-- The classes a dependency stands for. -/
def ClassGraph.targetsOf (g : ClassGraph) (t : TypeRef) : List String :=
  if g.contains t.primary then [t.primary] else g.candidatesIn t

def noteOn (name : String) (t : TypeRef) (found : List String) (context : AmbiguityContext) :
    List AmbiguityNote :=
  if 1 < found.length then [⟨name, t.simpleName, found, context⟩] else []

namespace ProjectMetrics

def addChild (children : Dict Nat) (parent : String) : Dict Nat :=
  match children.get? parent with
  | some n => children.insert parent (n + 1)
  | none => children

def addSuperclass (m : ProjectMetrics) (name : String) (t : TypeRef) : ProjectMetrics :=
  let parents := m.graph.candidatesIn t
  { m with
    children := parents.foldl addChild m.children
    ambiguities := m.ambiguities ++ noteOn name t parents .superclass }

def addDependency (m : ProjectMetrics) (name : String) (d : Dependency) : ProjectMetrics :=
  let targets := m.graph.targetsOf d.target
  { m with
    graph := targets.foldl (fun g t => g.add name t) m.graph
    ambiguities := m.ambiguities ++ noteOn name d.target targets .dependency }

def addClass (m : ProjectMetrics) (c : ClassLinks) : ProjectMetrics :=
  let m := match c.superclass with
    | some t => m.addSuperclass c.name t
    | none => m
  c.dependencies.foldl (fun m d => m.addDependency c.name d) m

def ofLinks (classes : List ClassLinks) : ProjectMetrics :=
  let names := classes.map (·.name)
  classes.foldl addClass
    { children := .ofList (names.map fun n => (n, 0)), graph := .ofNames names, ambiguities := [] }

def childrenOf (m : ProjectMetrics) (name : String) : Nat := (m.children.get? name).getD 0

def complete (m : ProjectMetrics) (c : ClassMetrics) : ClassMetrics :=
  let incoming := m.graph.incoming c.qualifiedName
  let outgoing := m.graph.outgoing c.qualifiedName
  { c with
    noc := m.childrenOf c.qualifiedName
    dependenciesIn := incoming
    dependenciesOut := outgoing
    inDegree := incoming.length
    outDegree := outgoing.length }

end ProjectMetrics

end JavaMetrics
