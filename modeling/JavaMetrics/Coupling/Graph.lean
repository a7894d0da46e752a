import JavaMetrics.Dict

set_option autoImplicit false

namespace JavaMetrics

structure ClassGraph where
  classes : List String
  edges : List (String × String)
deriving Repr, Inhabited

namespace ClassGraph

def ofNames (names : List String) : ClassGraph where
  classes := names.foldl (fun seen n => if seen.contains n then seen else seen ++ [n]) []
  edges := []

def contains (g : ClassGraph) (n : String) : Bool := g.classes.contains n

/-- A dependency that is between two different classes of the graph and not there yet. -/
def admits (g : ClassGraph) (a b : String) : Bool :=
  g.contains a && g.contains b && a != b && !g.edges.contains (a, b)

def add (g : ClassGraph) (a b : String) : ClassGraph :=
  if g.admits a b then { g with edges := g.edges ++ [(a, b)] } else g

/-- The far ends of the edges whose near end is `n`, ascending. -/
def neighbours (g : ClassGraph) (near far : String × String → String) (n : String) : List String :=
  ((g.edges.filter (near · == n)).map far).mergeSort

def outgoing (g : ClassGraph) (n : String) : List String := g.neighbours (·.1) (·.2) n

def incoming (g : ClassGraph) (n : String) : List String := g.neighbours (·.2) (·.1) n

def inDegree (g : ClassGraph) (n : String) : Nat := (g.incoming n).length

def outDegree (g : ClassGraph) (n : String) : Nat := (g.outgoing n).length

def classCount (g : ClassGraph) : Nat := g.classes.length

def edgeCount (g : ClassGraph) : Nat := g.edges.length

end ClassGraph

end JavaMetrics
