import JavaMetrics.Grammar.Production

set_option autoImplicit false

namespace JavaMetrics.Grammar

inductive Tree where
  /-- `origin` is the unit at which the blanks in front of the token begin. -/
  | leaf (term origin start stop : Nat) (comment : Bool)
  | branch (item cat origin start stop : Nat) (weight : Int) (children : List Tree)
deriving Inhabited

namespace Tree

def isComment : Tree → Bool
  | leaf _ _ _ _ c => c
  | branch .. => false

def origin : Tree → Nat
  | leaf _ o _ _ _ => o
  | branch _ _ o _ _ _ _ => o

def start : Tree → Nat
  | leaf _ _ s _ _ => s
  | branch _ _ _ s _ _ _ => s

def stop : Tree → Nat
  | leaf _ _ _ e _ => e
  | branch _ _ _ _ e _ _ => e

def weight : Tree → Int
  | leaf .. => 0
  | branch _ _ _ _ _ w _ => w

def children : Tree → List Tree
  | leaf .. => []
  | branch _ _ _ _ _ _ cs => cs

def symbol (terminals : Nat) : Tree → Nat
  | leaf t _ _ _ _ => t
  | branch _ c _ _ _ _ _ => terminals + c

def ofChildren (item cat here : Nat) (weight : Int) (children : List Tree) : Tree :=
  let total := children.foldl (fun w t => w + t.weight) weight
  match children.head?, children.getLast? with
  | some a, some b => branch item cat a.origin a.start b.stop total children
  | _, _ => branch item cat here here here total children

def alike (terminals : Nat) (a b : Tree) : Bool :=
  a.symbol terminals == b.symbol terminals && a.origin == b.origin && a.start == b.start &&
    a.stop == b.stop && a.children.length == b.children.length && a.isComment == b.isComment

mutual

/-- The order of trees: by symbol, then by number of children, then child by child. -/
def order (terminals : Nat) : Tree → Tree → Ordering
  | leaf t _ _ _ _, b => (compare t (b.symbol terminals)).then (compare 0 b.children.length)
  | branch _ c _ _ _ _ cs, b =>
    (compare (terminals + c) (b.symbol terminals)).then
      ((compare cs.length b.children.length).then (orderAll terminals cs b.children))

def orderAll (terminals : Nat) : List Tree → List Tree → Ordering
  | a :: as, b :: bs => (order terminals a b).then (orderAll terminals as bs)
  | _, _ => .eq

end

end Tree

end JavaMetrics.Grammar
