import JavaMetrics.Proofs.Cursor
import JavaMetrics.Proofs.LexicalScopes

set_option autoImplicit false

namespace JavaMetrics

def addNames (names : List String) : List (List String) → List (List String)
  | [] => []
  | s :: ss => (names.reverse ++ s) :: ss

namespace Node

mutual

/-- The fields in use in a node and below it, and the scopes as they are behind it. The depth of a visit is
of no account here: the scopes that are handed down say what is declared. -/
def fieldsUsed (src : Text.Source) (fields : List String) (parent : Option Node) (leads : Bool)
    (scopes : List (List String)) : Node → List String × List (List String)
  | mk k r s e cs =>
    let v : Visit := ⟨0, parent, leads, mk k r s e cs⟩
    let inner := if k.opensScope then [] :: scopes else scopes
    let here := v.fieldUses src fields fun x => inner.any (·.contains x)
    let below := fieldsUsedAll src fields v.node false (addNames (v.node.declaredNames src) inner) cs
    (here ++ below.1, if k.opensScope then scopes else below.2)

def fieldsUsedAll (src : Text.Source) (fields : List String) (parent : Node) (named : Bool)
    (scopes : List (List String)) : List Node → List String × List (List String)
  | [] => ([], scopes)
  | n :: ns =>
    let first := fieldsUsed src fields (some parent) (n.kind.isNamed && !named) scopes n
    let rest := fieldsUsedAll src fields parent (named || n.kind.isNamed) first.2 ns
    (first.1 ++ rest.1, rest.2)

end

section Tails

variable (src : Text.Source) (fields : List String)

theorem tail_addNames (names : List String) (scopes : List (List String)) :
    (addNames names scopes).tail = scopes.tail := by
  cases scopes <;> rfl

mutual

theorem tail_fieldsUsed : ∀ (n : Node) (parent : Option Node) (leads : Bool)
    (scopes : List (List String)),
    (n.fieldsUsed src fields parent leads scopes).2.tail = scopes.tail
  | mk k r s e cs, parent, leads, scopes => by
    by_cases hopen : k.opensScope = true
    · simp [fieldsUsed, hopen]
    · simp only [fieldsUsed, hopen]
      exact (tail_fieldsUsedAll cs _ false _).trans (tail_addNames _ scopes)

theorem tail_fieldsUsedAll : ∀ (ns : List Node) (parent : Node) (named : Bool)
    (scopes : List (List String)),
    (fieldsUsedAll src fields parent named scopes ns).2.tail = scopes.tail
  | [], parent, named, scopes => by rw [fieldsUsedAll]
  | n :: ns, parent, named, scopes => by
    rw [fieldsUsedAll]
    exact (tail_fieldsUsedAll ns parent _ _).trans (tail_fieldsUsed n _ _ scopes)

end

end Tails

end Node

namespace Collector

theorem closeTo_of_lt {d : Nat} {s : Scope} (ss : List Scope) (h : s.depth < d) :
    closeTo d (s :: ss) = s :: ss := by
  cases ss with
  | nil => rfl
  | cons t ss => rw [closeTo, if_neg (by omega)]

theorem closeTo_ne_nil {d : Nat} {ss : List Scope} (h : ss ≠ []) : closeTo d ss ≠ [] := by
  fun_induction closeTo d ss with
  | case1 s t rest hle ih => exact ih (List.cons_ne_nil t rest)
  | case2 s t rest hlt => exact h
  | case3 ss hshort => exact h

theorem length_closeTo_le (d : Nat) (ss : List Scope) : (closeTo d ss).length ≤ ss.length := by
  fun_induction closeTo d ss with
  | case1 s t rest hle ih => exact Nat.le_succ_of_le ih
  | case2 s t rest hlt => exact Nat.le_refl _
  | case3 ss hshort => exact Nat.le_refl _

/-- Nothing is left to close: this depends on the depths of the scopes alone. -/
theorem closeTo_eq_self_iff (d : Nat) (ss : List Scope) :
    closeTo d ss = ss ↔ 1 < ss.length → ∀ e ∈ (ss.map (·.depth)).head?, e < d := by
  rcases ss with _ | ⟨s, _ | ⟨t, rest⟩⟩
  · simp [closeTo]
  · simp [closeTo]
  · by_cases hd : d ≤ s.depth
    · have hshort := length_closeTo_le d (t :: rest)
      have hne : closeTo d (t :: rest) ≠ s :: t :: rest := by
        intro heq
        rw [heq, List.length_cons] at hshort
        omega
      simp [closeTo, hd, hne]
    · have hlt : s.depth < d := by omega
      simp [closeTo, hd, hlt]

theorem closeTo_eq_of_depths {d : Nat} {ss ts : List Scope}
    (hdepths : ss.map (·.depth) = ts.map (·.depth)) (h : closeTo d ts = ts) : closeTo d ss = ss := by
  have hlength : ss.length = ts.length := by simpa using congrArg List.length hdepths
  rw [closeTo_eq_self_iff, hlength, hdepths, ← closeTo_eq_self_iff]
  exact h

theorem closeTo_succ {d : Nat} {ss : List Scope} (h : closeTo d ss = ss) :
    closeTo (d + 1) ss = ss := by
  rw [closeTo_eq_self_iff] at h ⊢
  intro hlength e he
  have hlt := h hlength e he
  omega

variable (src : Text.Source) (fields : List String)

/-- What a walk over part of a tree at depth `d` does to a state, up to the scopes that the next node at
that depth closes. -/
structure Leaves (d : Nat) (c c' : Collector) (found : List String × List (List String)) : Prop where
  depths : (closeTo d c'.scopes).map (·.depth) = (closeTo d c.scopes).map (·.depth)
  names : (closeTo d c'.scopes).map (·.names) = found.2
  refs : c'.body.fieldRefs = found.1.foldl (fun s x => insertName x s) c.body.fieldRefs

theorem Leaves.trans {d : Nat} {c c₁ c₂ : Collector} {found rest : List String × List (List String)}
    (h₁ : Leaves d c c₁ found) (h₂ : Leaves d c₁ c₂ rest) :
    Leaves d c c₂ (found.1 ++ rest.1, rest.2) where
  depths := h₂.depths.trans h₁.depths
  names := h₂.names
  refs := by rw [h₂.refs, h₁.refs, List.foldl_append]

theorem names_foldl_declareIn (names : List String) (ss : List Scope) :
    (names.foldl Scope.declareIn ss).map (·.names) = addNames names (ss.map (·.names)) := by
  cases ss with
  | nil =>
    induction names with
    | nil => rfl
    | cons x names ih => exact ih
  | cons s ss =>
    rw [foldl_declareIn]
    rfl

theorem depths_foldl_declareIn (names : List String) (ss : List Scope) :
    (names.foldl Scope.declareIn ss).map (·.depth) = ss.map (·.depth) := by
  cases ss with
  | nil =>
    induction names with
    | nil => rfl
    | cons x names ih => exact ih
  | cons s ss =>
    rw [foldl_declareIn]
    rfl

theorem closeTo_step (c : Collector) (v : Visit) :
    closeTo (v.depth + 1) (c.step src fields v).scopes = (c.step src fields v).scopes := by
  rw [scopes_step]
  refine closeTo_eq_of_depths (depths_foldl_declareIn _ _) ?_
  split
  · exact closeTo_of_lt _ (Nat.lt_succ_self v.depth)
  · exact closeTo_succ (closeTo_closeTo (Nat.le_refl v.depth) c.scopes)

theorem scopes_step_ne_nil {c : Collector} (hc : c.scopes ≠ []) (v : Visit) :
    (c.step src fields v).scopes ≠ [] := by
  have hclosed : closeTo v.depth c.scopes ≠ [] := closeTo_ne_nil hc
  intro hnil
  have hdepths := congrArg (List.map (·.depth)) hnil
  rw [scopes_step, depths_foldl_declareIn] at hdepths
  by_cases hopen : v.node.kind.opensScope = true
  · simp [hopen] at hdepths
  · rw [if_neg hopen] at hdepths
    exact hclosed (List.map_eq_nil_iff.1 hdepths)

def namesAt (c : Collector) (v : Visit) : List (List String) :=
  if v.node.kind.opensScope then [] :: (closeTo v.depth c.scopes).map (·.names)
  else (closeTo v.depth c.scopes).map (·.names)

theorem names_enter (c : Collector) (v : Visit) :
    (c.enter v).scopes.map (·.names) = c.namesAt v := by
  simp only [enter, namesAt]
  split <;> rfl

theorem isDeclared_enter (c : Collector) (v : Visit) :
    (c.enter v).isDeclared = fun x => (c.namesAt v).any (·.contains x) := by
  funext x
  rw [isDeclared, ← names_enter, List.any_map]
  rfl

theorem names_step (c : Collector) (v : Visit) :
    (c.step src fields v).scopes.map (·.names) =
      addNames (v.node.declaredNames src) (c.namesAt v) := by
  rw [← names_enter, ← names_foldl_declareIn, scopes_step]
  rfl

variable {src fields}

theorem Leaves.close {c c' : Collector} {v : Visit} {below : List String × List (List String)}
    (hc : c.scopes ≠ []) (h : Leaves (v.depth + 1) (c.step src fields v) c' below)
    (htail : below.2.tail = ((c.step src fields v).scopes.map (·.names)).tail) :
    Leaves v.depth c c'
      (v.fieldUses src fields (c.enter v).isDeclared ++ below.1,
        if v.node.kind.opensScope then (closeTo v.depth c.scopes).map (·.names) else below.2) := by
  have hclosed : closeTo v.depth (closeTo v.depth c.scopes) = closeTo v.depth c.scopes :=
    closeTo_closeTo (Nat.le_refl v.depth) c.scopes
  have hinner : closeTo v.depth c'.scopes = closeTo v.depth (closeTo (v.depth + 1) c'.scopes) :=
    (closeTo_closeTo (Nat.le_succ v.depth) c'.scopes).symm
  have hdepths := h.depths
  rw [closeTo_step, scopes_step, depths_foldl_declareIn] at hdepths
  rw [scopes_step, names_foldl_declareIn, Node.tail_addNames] at htail
  have hrefs : c'.body.fieldRefs = (v.fieldUses src fields (c.enter v).isDeclared ++ below.1).foldl
      (fun s x => insertName x s) c.body.fieldRefs := by
    rw [h.refs, fieldRefs_step, List.foldl_append]
  by_cases hopen : v.node.kind.opensScope = true
  · rw [if_pos hopen] at hdepths htail
    rw [if_pos hopen]
    have hnames := h.names
    -- The scope of the node stands in front, and behind it those around the node.
    cases hscopes : closeTo (v.depth + 1) c'.scopes with
    | nil => simp [hscopes] at hdepths
    | cons own outer =>
      rw [hscopes] at hdepths hnames hinner
      obtain ⟨hown, houter⟩ : own.depth = v.depth ∧
          outer.map (·.depth) = (closeTo v.depth c.scopes).map (·.depth) := by simpa using hdepths
      have hsame := closeTo_eq_of_depths houter hclosed
      have hdropped : closeTo v.depth (own :: outer) = outer := by
        cases outer with
        | nil => exact absurd (List.map_eq_nil_iff.1 houter.symm) (closeTo_ne_nil hc)
        | cons o os => rw [closeTo, if_pos (by omega), hsame]
      refine ⟨?_, ?_, hrefs⟩
      · rw [hinner, hdropped, houter]
      · have htails := congrArg List.tail hnames
        rw [htail] at htails
        rw [hinner, hdropped]
        exact htails
  · rw [if_neg hopen] at hdepths
    have hsame := closeTo_eq_of_depths hdepths hclosed
    rw [if_neg hopen]
    refine ⟨?_, ?_, hrefs⟩
    · rw [hinner, hsame, hdepths]
    · rw [hinner, hsame, h.names]

variable (src fields)

mutual

theorem leaves_visits : ∀ (n : Node) (d : Nat) (parent : Option Node) (leads : Bool) (c : Collector),
    c.scopes ≠ [] → Leaves d c ((n.visits d parent leads).foldl (step src fields) c)
      (n.fieldsUsed src fields parent leads ((closeTo d c.scopes).map (·.names)))
  | .mk k r s e cs, d, parent, leads, c, hc => by
    let v : Visit := ⟨d, parent, leads, .mk k r s e cs⟩
    have hbelow := leaves_visitsAll cs (d + 1) v.node false (c.step src fields v)
      (scopes_step_ne_nil src fields hc v)
    have hinside : closeTo (d + 1) (c.step src fields v).scopes = (c.step src fields v).scopes :=
      closeTo_step src fields c v
    rw [hinside, names_step] at hbelow
    have hkept := (Node.tail_fieldsUsedAll src fields cs v.node false _).trans
      (congrArg List.tail (names_step src fields c v).symm)
    have hclose := Leaves.close hc hbelow hkept
    rw [isDeclared_enter] at hclose
    rw [Node.visits, List.foldl_cons, Node.fieldsUsed]
    exact hclose

theorem leaves_visitsAll : ∀ (ns : List Node) (d : Nat) (parent : Node) (named : Bool)
    (c : Collector), c.scopes ≠ [] →
      Leaves d c ((Node.visitsAll d parent named ns).foldl (step src fields) c)
        (Node.fieldsUsedAll src fields parent named ((closeTo d c.scopes).map (·.names)) ns)
  | [], d, parent, named, c, hc => by
    rw [Node.visitsAll, Node.fieldsUsedAll]
    exact ⟨rfl, rfl, rfl⟩
  | n :: ns, d, parent, named, c, hc => by
    have hfirst := leaves_visits n d (some parent) (n.kind.isNamed && !named) c hc
    have hopen : (((n.visits d (some parent) (n.kind.isNamed && !named)).foldl
        (step src fields) c)).scopes ≠ [] := by
      intro hnil
      have hdepths := hfirst.depths
      rw [hnil] at hdepths
      exact closeTo_ne_nil hc (List.map_eq_nil_iff.1 hdepths.symm)
    have hrest := leaves_visitsAll ns d parent (named || n.kind.isNamed) _ hopen
    rw [hfirst.names] at hrest
    rw [Node.visitsAll, List.foldl_append, Node.fieldsUsedAll]
    exact hfirst.trans hrest

end

theorem fieldRefs_walk (parameters : List Parameter) (parent : Option Node) (root : Node) :
    ((start parameters).walk src fields parent root).body.fieldRefs =
      sortedNames (root.fieldsUsed src fields parent false [(parameters.map (·.name)).reverse]).1 :=
  (leaves_visits src fields root 0 parent false (start parameters) (List.cons_ne_nil _ _)).refs

end Collector

/-- The loop ends after one visit to each node, in the order of the addresses. At each visit the open
scopes are those of the nodes on the way, innermost first, and behind them that of the parameters; so a
name is declared if it was declared in one of these so far. The fields in use are those that are
read through the object or by an undeclared name. -/
theorem walk_lexical (src : Text.Source) (fields : List String) (parameters : List Parameter)
    (parent : Option Node) (root : Node) :
    let start := Collector.start parameters
    let visits := root.visits 0 parent false
    let state := root.stateAt src fields parameters parent
    let refs := (start.walk src fields parent root).body.fieldRefs
    (Cursor.top parent root).run (Collector.step src fields) start 0 =
      start.walk src fields parent root ∧
    (Cursor.top parent root).run (fun seen v => seen ++ [v]) [] 0 = visits ∧
    visits.map some = root.addresses.map (Visit.at? ⟨0, parent, false, root⟩) ∧
    (∀ p, p ∈ root.addresses ↔ ∃ n, root.at? p = some n) ∧ root.addresses.Pairwise (· < ·) ∧
    (∀ i p, root.addresses[i]? = some p →
      (state i).scopes.map (·.depth) = (root.openAt p).map List.length ++ [0] ∧
      ∀ x, (state i).isDeclared x = true ↔ (∃ a ∈ parameters, a.name = x) ∨
        ∃ (j : Nat) (q : List Nat), j ≤ i ∧ root.addresses[j]? = some q ∧
          x ∈ root.declaredAt src q ∧ ∀ h, root.home? q = some h → h <+: p) ∧
    refs.Pairwise (· < ·) ∧
    (∀ f, f ∈ refs ↔ f ∈ fields ∧ ∃ (i : Nat) (v : Visit), visits[i]? = some v ∧
      (v.readsThis src f ∨ v.readsName src f ∧ (state i).isDeclared f = false)) ∧
    refs =
      sortedNames (root.fieldsUsed src fields parent false [(parameters.map (·.name)).reverse]).1 := by
  intro start visits state refs
  have hrefs := Collector.fieldRefs_walk src fields parameters parent root
  refine ⟨Cursor.run_top _ _ _ _, ?_, root.visits_eq 0 parent false, root.mem_addresses,
    root.pairwise_addresses, ?_, ?_, root.mem_fieldRefs_walk src fields parameters parent, hrefs⟩
  · rw [Cursor.run_top, List.foldl_append_eq_append, ← List.flatMap_def, List.flatMap_singleton']
    rfl
  · intro i p hp
    refine ⟨?_, Node.isDeclared_stateAt src fields parameters parent hp⟩
    rw [Node.scopes_stateAt src fields parameters parent hp]
    simp [Node.scopesIn]
  · simp only [refs, start, hrefs]
    exact pairwise_sortedNames _

namespace Node.Sample

def shadowed : Text.Source := .ofString "{{B f;f;}f;}"

def use (s : Nat) : Node :=
  .mk .expressionStatement none s (s + 2) [.leaf .identifier none s, .token (s + 1)]

def shadowedTree : Node := .mk .block none 0 12
  [.token 0,
    .mk .block none 1 9
      [.token 1,
        .mk .localVariableDeclaration none 2 6
          [.leaf .typeIdentifier (some .type) 2,
            .mk .variableDeclarator (some .declarator) 4 5 [.leaf .identifier (some .name) 4],
            .token 5],
        use 6, .token 8],
    use 9, .token 11]

end Node.Sample

theorem walk_lexical_shadowed :
    let state := Node.Sample.shadowedTree.stateAt Node.Sample.shadowed ["f"] [] none
    Node.Sample.shadowedTree.addresses[10]? = some [1, 2, 0] ∧
    (state 10).scopes.map (·.depth) = [1, 0, 0] ∧ (state 10).isDeclared "f" = true ∧
    (state 14).isDeclared "f" = false ∧
    "f" ∈ ((Collector.start []).walk Node.Sample.shadowed ["f"] none
      Node.Sample.shadowedTree).body.fieldRefs := by
  intro state
  obtain ⟨-, -, -, -, -, hscopes, -, hrefs, -⟩ :=
    walk_lexical Node.Sample.shadowed ["f"] [] none Node.Sample.shadowedTree
  obtain ⟨hdepths, hdeclared⟩ := hscopes 10 [1, 2, 0] rfl
  have houtside : (state 14).isDeclared "f" = false := rfl
  refine ⟨rfl, hdepths, ?_, houtside, ?_⟩
  · refine (hdeclared "f").2 (.inr ⟨4, [1, 1], by decide, rfl, by decide, ?_⟩)
    intro h hhome
    obtain rfl : [1] = h := Option.some.inj hhome
    exact ⟨[2, 0], rfl⟩
  · refine (hrefs "f").2 ⟨List.mem_singleton_self "f", 14, _, rfl, .inr ⟨⟨rfl, rfl, rfl⟩, houtside⟩⟩

end JavaMetrics
