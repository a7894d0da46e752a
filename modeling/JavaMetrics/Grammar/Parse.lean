import JavaMetrics.Grammar.Automaton
import JavaMetrics.Grammar.Token
import JavaMetrics.Grammar.Tree

/-!
Parsing with several readings at once. The readings of a text share one graph of stack cells; each
reading is a head that points to its topmost cell. Heads take turns token by token. A head that
cannot go on is dropped as long as another one can; two heads in the same state at the same
place become one, and where their trees differ the heavier reading is kept, the earlier one
when they weigh the same. A text has a syntax error when no head is left.
-/

set_option autoImplicit false

namespace JavaMetrics.Grammar

/-- A way down from a stack cell: the cell below and the tree between the two. -/
structure Link where
  below : Nat
  tree : Tree
deriving Inhabited

structure Cell where
  state : Nat
  place : Nat
  weight : Int
  links : Array Link
deriving Inhabited

inductive Progress where
  | running | stuck | over
deriving DecidableEq, Inhabited

structure Head where
  cell : Nat
  progress : Progress
deriving Inhabited

structure Run where
  automaton : Automaton
  cells : Array Cell
  heads : Array Head
  result : Option Tree

structure Input where
  tables : Tables
  lexicon : Lexicon
  units : Array Text.Glyph

def keptHeads : Nat := 6
def spareHeads : Nat := 4

namespace Run

def cellAt (r : Run) (c : Nat) : Cell := r.cells.getD c default

def headAt (r : Run) (v : Nat) : Head := r.heads.getD v ⟨0, .over⟩

def topOf (r : Run) (v : Nat) : Cell := r.cellAt (r.headAt v).cell

def isRunning (r : Run) (v : Nat) : Bool := (r.headAt v).progress == .running

def setProgress (r : Run) (v : Nat) (p : Progress) : Run :=
  { r with heads := r.heads.modify v fun h => { h with progress := p } }

def dropHead (r : Run) (v : Nat) : Run := { r with heads := r.heads.eraseIdxIfInBounds v }

def push (r : Run) (v : Nat) (t : Tree) (state : Nat) : Run :=
  let below := (r.headAt v).cell
  let weight := (r.cellAt below).weight + t.weight
  let cell : Cell := { state, place := t.stop, weight, links := #[⟨below, t⟩] }
  let n := r.cells.size
  { r with cells := r.cells.push cell, heads := r.heads.modify v fun h => { h with cell := n } }

/-- Adds a way down to cell `c`. A tree that stands for the same text over the same cell is kept
only if it is heavier; over another cell in the same state the two cells are joined. -/
def addLink (terminals : Nat) : Nat → Run → Nat → Link → Run
  | 0, r, _, _ => r
  | fuel + 1, r, c, link =>
    let cell := r.cellAt c
    let low := r.cellAt link.below
    let total := low.weight + link.tree.weight
    let same := cell.links.findIdx? fun l =>
      l.tree.alike terminals link.tree &&
        (l.below == link.below ||
          ((r.cellAt l.below).state == low.state && (r.cellAt l.below).place == low.place))
    if link.below == c then r
    else
      match same with
      | some i =>
        let old := cell.links.getD i default
        if old.below == link.below then
          if old.tree.weight < link.tree.weight then
            { r with cells := r.cells.modify c fun cell =>
                { cell with links := cell.links.setIfInBounds i link, weight := total } }
          else r
        else
          let r := low.links.foldl (fun r l => addLink terminals fuel r old.below l) r
          { r with cells := r.cells.modify c fun cell =>
              { cell with weight := if cell.weight < total then total else cell.weight } }
      | none =>
        { r with cells := r.cells.modify c fun cell =>
            { cell with
              links := cell.links.push link
              weight := if cell.weight < total then total else cell.weight } }

def join? (terminals : Nat) (r : Run) (v w : Nat) : Option Run :=
  let a := r.topOf v
  let b := r.topOf w
  if r.isRunning v && r.isRunning w && a.state == b.state && a.place == b.place then
    let c := (r.headAt v).cell
    let r := b.links.foldl (fun r l => addLink terminals r.cells.size r c l) r
    some (r.dropHead w)
  else none

def joinInto? (terminals : Nat) (r : Run) (w skip : Nat) : Option Run :=
  (List.range w).findSome? fun v => if v == skip then none else r.join? terminals v w

structure Walk where
  cell : Nat
  trees : List Tree
  left : Nat

def Walk.along (w : Walk) (l : Link) : Walk :=
  { cell := l.below, trees := l.tree :: w.trees
    left := if l.tree.isComment then w.left else w.left - 1 }

/-- All ways to pass the trees that a reduction needs. Further links of a cell are followed after
all first links. -/
def walks (r : Run) : Nat → List Walk → List Walk → List Walk
  | 0, _, done => done
  | _, [], done => done
  | fuel + 1, ws, done =>
    let ended := ws.filter (·.left == 0)
    let going := ws.filter (·.left != 0)
    let firsts := going.filterMap fun w => ((r.cellAt w.cell).links[0]?).map w.along
    let others := going.flatMap fun w => ((r.cellAt w.cell).links.toList.drop 1).map w.along
    r.walks fuel (firsts ++ others) (done ++ ended)

def byCell (ws : List Walk) : List (Nat × List (List Tree)) :=
  ws.foldl (fun groups w =>
    if groups.any (·.1 == w.cell) then
      groups.map fun (c, ts) => if c == w.cell then (c, ts ++ [w.trees]) else (c, ts)
    else groups ++ [(w.cell, [w.trees])]) []

def splitTrailing (trees : List Tree) : List Tree × List Tree :=
  let behind := (trees.reverse.takeWhile Tree.isComment).reverse
  (trees.take (trees.length - behind.length), behind)

def totalWeight (trees : List Tree) : Int := trees.foldl (fun w t => w + t.weight) 0

def prefersSecond (terminals : Nat) (a b : List Tree) : Bool :=
  let wa := totalWeight a
  let wb := totalWeight b
  if wa != wb then wa < wb
  else ((compare a.length b.length).then (Tree.orderAll terminals a b)) == .gt

def choose (terminals : Nat) : List (List Tree) → List Tree × List Tree
  | [] => ([], [])
  | ts :: rest => rest.foldl (fun best ts =>
      let next := splitTrailing ts
      if prefersSecond terminals best.1 next.1 then next else best) (splitTrailing ts)

def overCount (r : Run) : Nat := (r.heads.filter (·.progress == .over)).size

def finishReduction (x : Input) (v item : Nat) :
    List (Nat × List (List Tree)) → Nat → Run → Run
  | [], _, r => r
  | (below, rows) :: rest, w, r =>
    if keptHeads + spareHeads + r.overCount < w then finishReduction x v item rest w (r.dropHead w)
    else
      let terminals := x.tables.terminals.size
      let p := x.tables.productionOf item
      let (children, behind) := choose terminals rows
      let low := r.cellAt below
      let tree := Tree.ofChildren item p.lhs low.place p.weight children
      let (state, automaton) := r.automaton.goto x.tables low.state (.cat p.lhs)
      let r := { r with automaton }
      let r := behind.foldl (fun r t => r.push w t state) (r.push w tree state)
      match r.joinInto? terminals w v with
      | some r => finishReduction x v item rest w r
      | none => finishReduction x v item rest (w + 1) r

def reduce (x : Input) (v item : Nat) (r : Run) : Run :=
  let start : Walk := { cell := (r.headAt v).cell, trees := [], left := (x.tables.item item).dot }
  let groups := byCell (r.walks (r.cells.size + 1) [start] [])
  let first := r.heads.size
  let r := { r with heads := r.heads ++ (groups.map fun (c, _) => ⟨c, .running⟩).toArray }
  finishReduction x v item groups first r

/-- The whole text: what stands on the stack of head `v`, with the program's own children in its
place. -/
def accept (x : Input) (v : Nat) (r : Run) : Run :=
  let all : Walk := { cell := (r.headAt v).cell, trees := [], left := r.cells.size + 1 }
  let rec down : Nat → List Walk → List (List Tree) → List (List Tree)
    | 0, _, done => done
    | _, [], done => done
    | fuel + 1, ws, done =>
      let ended := ws.filter fun w => (r.cellAt w.cell).links.isEmpty
      let firsts := ws.filterMap fun w => ((r.cellAt w.cell).links[0]?).map w.along
      let others := ws.flatMap fun w => ((r.cellAt w.cell).links.toList.drop 1).map w.along
      down fuel (firsts ++ others) (done ++ ended.map (·.trees))
  let terminals := x.tables.terminals.size
  let roots := (down (r.cells.size + 1) [all] []).map fun trees =>
    let front := trees.takeWhile Tree.isComment
    match trees.drop front.length with
    | .branch item cat _ _ _ w cs :: behind =>
      let cs := front ++ cs ++ behind
      match Tree.ofChildren item cat 0 0 cs with
      | .branch item cat o s e _ cs => Tree.branch item cat o s e w cs
      | t => t
    | _ => Tree.branch 0 0 0 0 0 0 trees
  let result := roots.foldl (fun best t =>
    match best with
    | none => some t
    | some b => if prefersSecond terminals [b] [t] then some t else best) r.result
  { r with result }.setProgress v .over

def consume (x : Input) (v : Nat) : Nat → Token → Run → Run
  | 0, _, r => r.setProgress v .stuck
  | fuel + 1, t, r =>
    let top := r.topOf v
    let leaf := Tree.leaf t.term top.place t.start t.stop (x.lexicon.comments.has t.term)
    if x.lexicon.comments.has t.term then r.push v leaf top.state
    else
      let acts := x.tables.actions (r.automaton.stateAt top.state) t.term
      if acts.isEmpty then
        if x.lexicon.wordTokens.has t.term && t.term != x.lexicon.identifier then
          consume x v fuel { t with term := x.lexicon.identifier } r
        else r.setProgress v .stuck
      else
        let (last, r) := acts.reductions.foldl (fun (last, r) item =>
          let before := r.heads.size
          let r := r.reduce x v item
          (if before < r.heads.size then some before else last, r)) ((none : Option Nat), r)
        if acts.shift then
          let (state, automaton) := r.automaton.goto x.tables top.state (.term t.term)
          { r with automaton }.push v leaf state
        else if acts.accept then r.accept x v
        else
          match last with
          | some w =>
            let r := { r with heads := r.heads.setIfInBounds v (r.headAt w) }
            consume x v fuel t (r.dropHead w)
          | none => r.setProgress v .over

def advance (x : Input) (v : Nat) (r : Run) : Run :=
  let top := r.topOf v
  match x.lexicon.read x.units (r.automaton.stateAt top.state).allowed top.place with
  | some t => r.consume x v (64 * (r.cells.size + 16)) t
  | none => r.setProgress v .stuck

def drive (x : Input) (v : Nat) : Nat → Nat → Run → Nat × Run
  | 0, last, r => (last, r)
  | fuel + 1, last, r =>
    if r.isRunning v then
      let r := r.advance x v
      let place := (r.topOf v).place
      if last < place || (0 < v && place == last) then (place, r) else drive x v fuel last r
    else (last, r)

def sweep (x : Input) : Nat → Nat → Nat → Run → Nat × Run
  | 0, _, last, r => (last, r)
  | fuel + 1, v, last, r =>
    if v < r.heads.size then
      let (last, r) := r.drive x v (x.units.size + 2) last
      sweep x fuel (v + 1) last r
    else (last, r)

/-- Compares head `i` with the heads before it, from `j` on: heads that are over go, stuck heads go
if another one runs, heads that can be joined are, and heavier ones move forward. -/
def settle (terminals : Nat) : Nat → Nat → Nat → Run → Run
  | 0, _, _, r => r
  | fuel + 1, i, j, r =>
    if r.heads.size ≤ i then r
    else if (r.headAt i).progress == .over then settle terminals fuel i 0 (r.dropHead i)
    else if i ≤ j then settle terminals fuel (i + 1) 0 r
    else
      match r.isRunning j, r.isRunning i with
      | true, false => settle terminals fuel i 0 (r.dropHead i)
      | false, true => settle terminals fuel (i - 1) j (r.dropHead j)
      | _, _ =>
        match r.join? terminals j i with
        | some r => settle terminals fuel i 0 r
        | none =>
          let a := r.headAt j
          let b := r.headAt i
          if (r.cellAt a.cell).weight < (r.cellAt b.cell).weight then
            settle terminals fuel i (j + 1)
              { r with heads := (r.heads.setIfInBounds j b).setIfInBounds i a }
          else settle terminals fuel i (j + 1) r

def turns (x : Input) : Nat → Nat → Run → Nat × Run
  | 0, last, r => (last, r)
  | fuel + 1, last, r =>
    let (last, r) := r.sweep x 64 0 last
    let r := r.settle x.tables.terminals.size 4096 0 0
    let r := { r with heads := r.heads.take keptHeads }
    if r.heads.any (·.progress == .running) then turns x fuel last r else (last, r)

end Run

/-- The derivation tree of a text, or the first token that no reading goes on with. -/
def parseTree (x : Input) : Except Nat Tree :=
  let start : Run :=
    { automaton := Automaton.initial x.tables
      cells := #[{ state := 0, place := 0, weight := 0, links := #[] }]
      heads := #[⟨0, .running⟩]
      result := none }
  match start.turns x (2 * x.units.size + 4) 0 with
  | (_, { result := some t, .. }) => .ok t
  | (last, _) => .error (tokenStart x.units last)

end JavaMetrics.Grammar
