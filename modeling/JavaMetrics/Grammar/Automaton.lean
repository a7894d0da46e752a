import JavaMetrics.Grammar.Production

/-!
The parser's states, built when a text first reaches them. A state is a set of items with the
tokens that may follow each; what it does on a token follows from the items alone. Where both
shifting and reducing are possible, binding levels decide and then associativity; what they
leave open is kept as several actions.
-/

set_option autoImplicit false

namespace JavaMetrics.Grammar

/-- Items with the tokens that may follow them, ascending by item. -/
abbrev Kernel := Array (Nat × Tokens)

structure State where
  kernel : Kernel
  begins : Array (Nat × Tokens)
  finished : Array (Nat × Tokens)
  shiftable : Tokens
  allowed : Tokens
  next : Std.HashMap Sym Nat
deriving Inhabited

structure Automaton where
  states : Array State
  index : Std.HashMap Kernel Nat
deriving Inhabited

/-- What to do on a token: reductions by finished item, then possibly a shift. -/
structure Actions where
  reductions : List Nat
  shift : Bool
  accept : Bool
deriving Inhabited

def Actions.isEmpty (a : Actions) : Bool := a.reductions.isEmpty && !a.shift && !a.accept

namespace Tables

def item (g : Tables) (i : Nat) : Item := g.items.getD i default

def productionOf (g : Tables) (i : Nat) : Production :=
  g.productions.getD (g.item i).production default

def nextSym (g : Tables) (i : Nat) : Option Sym :=
  (g.productionOf i).steps[(g.item i).dot]?.map (·.sym)

def advanced (g : Tables) (i : Nat) : Nat :=
  let it := g.item i
  (g.itemAt.getD it.production #[]).getD (it.dot + 1) 0

def begins (g : Tables) (s : Sym) : Tokens := symFirst g.first s

def addFollow (c : Nat) (la : Tokens) (queue : List Nat) (follow : Array Tokens) :
    List Nat × Array Tokens :=
  let old := follow.getD c 0
  if old != 0 && old.covers la then (queue, follow)
  else (c :: queue, follow.setIfInBounds c (old.union la))

/-- Carries following tokens down to the categories that stand first. -/
def spread (g : Tables) : Nat → List Nat → Array Tokens → Array Tokens
  | 0, _, follow => follow
  | _, [], follow => follow
  | fuel + 1, c :: queue, follow =>
    let la := follow.getD c 0
    let (queue, follow) := (g.corners.getD c #[]).foldl (fun (queue, follow) k =>
      addFollow k.cat (if k.atEnd then k.follow.union la else k.follow) queue follow) (queue, follow)
    g.spread fuel queue follow

def closure (g : Tables) (kernel : Kernel) : Array (Nat × Tokens) :=
  let (queue, follow) := kernel.foldl (fun (queue, follow) (i, la) =>
    match g.nextSym i with
    | some (.cat c) =>
      let rest := match g.nextSym (g.advanced i) with
        | some s => g.begins s
        | none => la
      addFollow c rest queue follow
    | _ => (queue, follow)) (([] : List Nat), Array.replicate (g.categories + 1) (0 : Tokens))
  let follow := g.spread (g.categories * g.terminals.size) queue follow
  (follow.zipIdx.filter (·.1 != 0)).map fun (la, c) => (c, la)

def state (g : Tables) (kernel : Kernel) : State :=
  let begins := g.closure kernel
  let empty := begins.flatMap fun (c, la) =>
    (g.ofCategory.getD c #[]).filterMap fun p =>
      if (g.productions.getD p default).steps.isEmpty then
        some ((g.itemAt.getD p #[]).getD 0 0, la)
      else none
  let finished := kernel.filter (fun (i, _) => (g.nextSym i).isNone) ++ empty
  let ofKernel := kernel.foldl (fun s (i, _) =>
    match g.nextSym i with
    | some (.term t) => Tokens.union s (Tokens.single t)
    | _ => s) 0
  let shiftable := begins.foldl (fun s (c, _) => Tokens.union s (g.direct.getD c 0)) ofKernel
  { kernel, begins, finished, shiftable
    allowed := finished.foldl (fun s (_, la) => Tokens.union s la) shiftable
    next := ∅ }

def insertItem (i : Nat) (la : Tokens) : List (Nat × Tokens) → List (Nat × Tokens)
  | [] => [(i, la)]
  | (j, lb) :: rest =>
    if i < j then (i, la) :: (j, lb) :: rest
    else if i == j then (j, Tokens.union lb la) :: rest
    else (j, lb) :: insertItem i la rest

def successor (g : Tables) (st : State) (x : Sym) : Kernel :=
  let ofKernel := st.kernel.foldl (fun items (i, la) =>
    if g.nextSym i == some x then insertItem (g.advanced i) la items else items) []
  let all := st.begins.foldl (fun items (c, la) =>
    match (g.byFirst.getD c ∅)[x]? with
    | some ps => ps.foldl (fun items p =>
        insertItem ((g.itemAt.getD p #[]).getD 1 0) la items) items
    | none => items) ofKernel
  all.toArray

structure Reductions where
  items : List Nat := []
  level : Int := 0
  left : Bool := false
  right : Bool := false
  neither : Bool := false

def Reductions.add (r : Reductions) (i : Nat) (p : Production) : Reductions :=
  let base : Option Reductions :=
    if r.items.isEmpty then some r
    else if r.level < p.level then some {}
    else if r.level == p.level then some r
    else none
  match base with
  | none => r
  | some b =>
    { items := b.items ++ [i], level := p.level
      left := b.left || p.associativity == some .left
      right := b.right || p.associativity == some .right
      neither := b.neither || p.associativity.isNone }

def rank (g : Tables) (i : Nat) : Nat × Nat × Int × Int :=
  let p := g.productionOf i
  ((g.item i).dot, p.lhs, p.weight, p.level)

def rankLe (a b : Nat × Nat × Int × Int) : Bool :=
  if a.1 != b.1 then a.1 < b.1
  else if a.2.1 != b.2.1 then a.2.1 < b.2.1
  else if a.2.2.1 != b.2.2.1 then a.2.2.1 < b.2.2.1
  else a.2.2.2 ≤ b.2.2.2

def isRepetition (g : Tables) (c : Nat) : Bool := g.named ≤ c && c < g.categories

/-- Shift or reduce: a repetition always reduces, otherwise the tighter binding wins, and at equal
levels associativity, if all reductions share it. -/
def resolve (g : Tables) (st : State) (t : Nat) (r : Reductions) : Actions :=
  let reading := st.kernel.filterMap fun (i, _) =>
    match g.nextSym i with
    | some s => if (g.item i).dot != 0 && (g.begins s).has t then some (g.productionOf i) else none
    | none => none
  let done := (st.finished.filter (·.2.has t)).map fun (i, _) => g.productionOf i
  let involved := (reading ++ done).filter (·.lhs != g.categories)
  let lhs := (involved[0]?.map (·.lhs)).getD g.categories
  let both : Actions := { reductions := r.items, shift := true, accept := false }
  let reduceOnly := { both with shift := false }
  let shiftOnly := { both with reductions := [] }
  if g.isRepetition lhs && involved.all (·.lhs == lhs) then reduceOnly
  else
    let tighter := reading.any fun p => r.level < p.level
    let looser := reading.any fun p => p.level < r.level
    match tighter, looser with
    | true, false => shiftOnly
    | false, true => reduceOnly
    | true, true => both
    | false, false =>
      match r.left, r.neither, r.right with
      | true, false, false => reduceOnly
      | false, false, true => shiftOnly
      | _, _, _ => both

def actions (g : Tables) (st : State) (t : Nat) : Actions :=
  let due := (st.finished.filter (·.2.has t)).toList.map (·.1)
  let accept := due.any fun i => (g.productionOf i).lhs == g.categories
  let sorted := (due.filter fun i => (g.productionOf i).lhs != g.categories).mergeSort
    fun i j => rankLe (g.rank i) (g.rank j)
  let r := sorted.foldl (fun r i => r.add i (g.productionOf i)) ({} : Reductions)
  let shift := st.shiftable.has t
  if shift && !r.items.isEmpty then { g.resolve st t r with accept }
  else { reductions := r.items, shift, accept }

end Tables

namespace Automaton

def intern (g : Tables) (a : Automaton) (kernel : Kernel) : Nat × Automaton :=
  match a.index[kernel]? with
  | some n => (n, a)
  | none =>
    let n := a.states.size
    (n, { states := a.states.push (g.state kernel), index := a.index.insert kernel n })

/-- The state before any token: the start production, with the end of the text behind it. -/
def initial (g : Tables) : Automaton :=
  ((⟨#[], ∅⟩ : Automaton).intern g #[((g.itemAt.getD 0 #[]).getD 0 0, Tokens.single 0)]).2

def stateAt (a : Automaton) (n : Nat) : State := a.states.getD n default

def goto (g : Tables) (a : Automaton) (n : Nat) (x : Sym) : Nat × Automaton :=
  let st := a.stateAt n
  match st.next[x]? with
  | some m => (m, a)
  | none =>
    let (m, a) := a.intern g (g.successor st x)
    (m, { a with states := a.states.modify n fun st => { st with next := st.next.insert x m } })

end Automaton

end JavaMetrics.Grammar
