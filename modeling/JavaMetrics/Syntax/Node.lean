import JavaMetrics.Syntax.Kind

set_option autoImplicit false

namespace JavaMetrics

inductive Node where
  | mk (kind : Kind) (role : Option Field) (start stop : Nat) (children : List Node)
deriving Inhabited

namespace Node

def kind : Node → Kind
  | mk k _ _ _ _ => k

def role : Node → Option Field
  | mk _ r _ _ _ => r

def start : Node → Nat
  | mk _ _ s _ _ => s

def stop : Node → Nat
  | mk _ _ _ e _ => e

def children : Node → List Node
  | mk _ _ _ _ cs => cs

def withRole (n : Node) (f : Field) : Node := mk n.kind (some f) n.start n.stop n.children

/-- The children other than keywords and punctuation. -/
def namedChildren (n : Node) : List Node := n.children.filter (·.kind.isNamed)

def inRole (n : Node) (f : Field) : List Node := n.children.filter (·.role == some f)

def child? (n : Node) (f : Field) : Option Node := n.children.find? (·.role == some f)

def named? (n : Node) (k : Kind) : Option Node := n.namedChildren.find? (·.kind == k)

mutual

def preorder : Node → List Node
  | mk k r s e cs => mk k r s e cs :: preorderAll cs

def preorderAll : List Node → List Node
  | [] => []
  | n :: ns => n.preorder ++ preorderAll ns

end

end Node

end JavaMetrics
