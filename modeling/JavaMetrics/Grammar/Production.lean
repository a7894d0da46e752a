import JavaMetrics.Grammar.Rule
import Std.Data.HashMap

/-!
Grammars in numbered form. Rules are expanded to productions over numbered symbols: a repeated
rule becomes a category of its own that is either one item or two repetitions side by side, and
every choice gives productions of its own. The tables kept here are what the construction of
parser states reads: which tokens can begin a symbol, and which categories can stand first in
another.
-/

set_option autoImplicit false

namespace JavaMetrics.Grammar

/-- A symbol by number. Categories with rules come first, repetitions after them. -/
inductive Sym where
  | term (i : Nat)
  | cat (i : Nat)
deriving DecidableEq, Repr, Inhabited, Hashable

structure Step where
  sym : Sym
  role : Option Field := none
  label : Option Kind := none
deriving DecidableEq, Repr, Inhabited, Hashable

structure Production where
  lhs : Nat
  steps : Array Step
  level : Int := 0
  associativity : Option Associativity := none
  weight : Int := 0
deriving DecidableEq, Repr, Inhabited, Hashable

def Rule.number : Rule → Array Rule → Rule × Array Rule
  | .many1 r, seen =>
    let (r, seen) := r.number seen
    match seen.idxOf? r with
    | some i => (.repetition i, seen)
    | none => (.repetition seen.size, seen.push r)
  | .seq a b, seen =>
    let (a, seen) := a.number seen
    let (b, seen) := b.number seen
    (.seq a b, seen)
  | .alt a b, seen =>
    let (a, seen) := a.number seen
    let (b, seen) := b.number seen
    (.alt a b, seen)
  | .role f r, seen =>
    let (r, seen) := r.number seen
    (.role f r, seen)
  | .label k r, seen =>
    let (r, seen) := r.number seen
    (.label k r, seen)
  | r, seen => (r, seen)

def Rule.terminals : Rule → List Terminal
  | .terminal t => [t]
  | .seq a b | .alt a b => a.terminals ++ b.terminals
  | .many1 r | .role _ r | .label _ r => r.terminals
  | _ => []

def distinct {α : Type} [BEq α] (xs : List α) : Array α :=
  xs.foldl (fun seen x => if seen.contains x then seen else seen.push x) #[]

/-- The step sequences of a rule, choices multiplied out. An inner role or label wins. -/
def Rule.sequences (number : Terminal → Nat) (categories : Nat) : Rule → List (List Step)
  | .blank => [[]]
  | .terminal t => [[{ sym := .term (number t) }]]
  | .category k => [[{ sym := .cat k.ctorIdx }]]
  | .repetition i => [[{ sym := .cat (categories + i) }]]
  | .seq a b =>
    let tails := b.sequences number categories
    (a.sequences number categories).flatMap fun s => tails.map (s ++ ·)
  | .alt a b => a.sequences number categories ++ b.sequences number categories
  | .many1 r => r.sequences number categories
  | .role f r =>
    (r.sequences number categories).map fun s => s.map fun st =>
      { st with role := st.role <|> some f }
  | .label k r =>
    (r.sequences number categories).map fun s => s.map fun st =>
      { st with label := st.label <|> some k }

/-- A set of terminals, one bit each. -/
abbrev Tokens := Nat

def Tokens.single (t : Nat) : Tokens := 1 <<< t

def Tokens.has (s : Tokens) (t : Nat) : Bool := Nat.testBit s t

def Tokens.union (s u : Tokens) : Tokens := s ||| u

def Tokens.covers (s u : Tokens) : Bool := (s ||| u) == s

/-- How a category can stand first in another: the tokens that can follow it there, and whether
what follows the outer one can follow it too. -/
structure Corner where
  cat : Nat
  follow : Tokens
  atEnd : Bool
deriving Inhabited

/-- A dot position, represented by one of the productions that agree on what is left to come
and on the roles and labels of what has been read. -/
structure Item where
  production : Nat
  dot : Nat
deriving DecidableEq, Repr, Inhabited, Hashable

structure Tables where
  terminals : Array Terminal
  named : Nat
  categories : Nat
  productions : Array Production
  ofCategory : Array (Array Nat)
  first : Array Tokens
  direct : Array Tokens
  corners : Array (Array Corner)
  byFirst : Array (Std.HashMap Sym (Array Nat))
  items : Array Item
  itemAt : Array (Array Nat)
deriving Inhabited

structure ItemKey where
  lhs : Nat
  dot : Nat
  weight : Int
  length : Nat
  level : Int
  associativity : Option Associativity
  before : List (Option Field × Option Kind)
  after : List Step
deriving DecidableEq, Hashable

def Production.key (p : Production) (dot : Nat) : ItemKey where
  lhs := p.lhs
  dot := dot
  weight := p.weight
  length := p.steps.size
  level := p.level
  associativity := p.associativity
  before := (p.steps.toList.take dot).map fun s => (s.role, s.label)
  after := p.steps.toList.drop dot

namespace Tables

def symFirst (first : Array Tokens) : Sym → Tokens
  | .term i => Tokens.single i
  | .cat i => first.getD i 0

def growFirst (productions : Array Production) (first : Array Tokens) : Array Tokens :=
  productions.foldl (fun first p =>
    match p.steps[0]? with
    | some s => first.modify p.lhs (Tokens.union (symFirst first s.sym))
    | none => first) first

def closeFirst (productions : Array Production) : Nat → Array Tokens → Array Tokens
  | 0, first => first
  | fuel + 1, first =>
    let next := growFirst productions first
    if next == first then first else closeFirst productions fuel next

def addCorner (cs : Array Corner) (c : Corner) : Array Corner :=
  match cs.findIdx? (·.cat == c.cat) with
  | some i => cs.modify i fun old =>
      { old with follow := Tokens.union old.follow c.follow, atEnd := old.atEnd || c.atEnd }
  | none => cs.push c

def cornersOf (first : Array Tokens) (p : Production) (cs : Array Corner) : Array Corner :=
  match p.steps[0]?.map Step.sym with
  | some (.cat c) =>
    match p.steps[1]? with
    | some s => addCorner cs { cat := c, follow := symFirst first s.sym, atEnd := false }
    | none => addCorner cs { cat := c, follow := 0, atEnd := true }
  | _ => cs

def numberItems (productions : Array Production) : Array Item × Array (Array Nat) :=
  let start : Array Item × Array (Array Nat) × Std.HashMap ItemKey Nat := (#[], #[], {})
  let (items, at', _) := (List.range productions.size).foldl (fun (items, rows, index) i =>
    let p := productions.getD i default
    let (items, row, index) := (List.range (p.steps.size + 1)).foldl
      (fun (items, row, index) dot =>
        let key := p.key dot
        match index[key]? with
        | some n => (items, row.push n, index)
        | none => (items.push ⟨i, dot⟩, row.push items.size, index.insert key items.size))
      (items, (#[] : Array Nat), index)
    (items, rows.push row, index)) start
  (items, at')

def productionsOf (rules : Kind → List Alternative) (number : Terminal → Nat) :
    Array Production × Nat :=
  let named := Kind.ruleCount
  let (alternatives, repeated) := Kind.withRules.foldl (fun (done, seen) k =>
    let (row, seen) := (rules k).foldl (fun (row, seen) a =>
      let (r, seen) := a.rule.number seen
      (row ++ [{ a with rule := r }], seen)) (([] : List Alternative), seen)
    (done ++ [(k.ctorIdx, row)], seen)) (([] : List (Nat × List Alternative)), (#[] : Array Rule))
  let ofRule := fun (lhs : Nat) (a : Alternative) =>
    (a.rule.sequences number named).map fun s =>
      ({ lhs, steps := s.toArray, level := a.level, associativity := a.associativity,
         weight := a.weight } : Production)
  let ofKinds := alternatives.flatMap fun (lhs, row) => row.flatMap (ofRule lhs)
  let ofRepeated := (List.range repeated.size).flatMap fun i =>
    let self : Step := { sym := .cat (named + i) }
    { lhs := named + i, steps := #[self, self] } ::
      ofRule (named + i) { rule := repeated.getD i .blank }
  let total := named + repeated.size
  let start : Production := { lhs := total, steps := #[{ sym := .cat 0 }] }
  (distinct (start :: ofKinds ++ ofRepeated), total)

def terminalsOf (rules : Kind → List Alternative) : Array Terminal :=
  distinct (.endOfInput :: .lexeme .identifier ::
    Kind.withRules.flatMap (fun k => (rules k).flatMap (·.rule.terminals)) ++
    [.lexeme .lineComment, .lexeme .blockComment])

def ofRules (rules : Kind → List Alternative) : Tables :=
  let terminals := terminalsOf rules
  let number := fun t => (terminals.idxOf? t).getD 0
  let (productions, categories) := productionsOf rules number
  let none' : Array Tokens := Array.replicate (categories + 1) 0
  let first := closeFirst productions (categories + 1) none'
  let ids := (List.range productions.size)
  let prod := fun i => productions.getD i default
  let ofCategory := ids.foldl (fun rows i => rows.modify (prod i).lhs (·.push i))
    (Array.replicate (categories + 1) (#[] : Array Nat))
  let direct := productions.foldl (fun rows p =>
    match p.steps[0]?.map Step.sym with
    | some (.term t) => rows.modify p.lhs (Tokens.union (Tokens.single t))
    | _ => rows) none'
  let corners := productions.foldl (fun rows p => rows.modify p.lhs (cornersOf first p))
    (Array.replicate (categories + 1) (#[] : Array Corner))
  let byFirst := ids.foldl (fun rows i =>
    match (prod i).steps[0]? with
    | some s => rows.modify (prod i).lhs fun m => m.insert s.sym ((m.getD s.sym #[]).push i)
    | none => rows) (Array.replicate (categories + 1) (∅ : Std.HashMap Sym (Array Nat)))
  let (items, itemAt) := numberItems productions
  { terminals, named := Kind.ruleCount, categories, productions, ofCategory, first, direct,
    corners, byFirst, items, itemAt }

end Tables

end JavaMetrics.Grammar
