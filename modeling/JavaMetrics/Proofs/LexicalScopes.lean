import JavaMetrics.Proofs.Addresses
import JavaMetrics.Proofs.Visits

/-!
The open scopes of a walk are lexical. They are closed late, when the walk comes to a node that is not deeper
than the one that opened them, but at every visit they are the scopes of the nodes around the node that
is visited, and each holds what was declared in it so far. A field is in use where no scope around the
node declares its name.
-/

set_option autoImplicit false

namespace JavaMetrics

namespace Node

section Around

variable (root : Node)

def opensAt (p : List Nat) : Bool := (root.at? p).any (·.kind.opensScope)

def openAt (p : List Nat) : List (List Nat) := p.inits.reverse.filter root.opensAt

def openAbove (p : List Nat) : List (List Nat) := p.inits.dropLast.reverse.filter root.opensAt

/-- The innermost node that opens a scope and has `p` in it or at it. -/
def home? (p : List Nat) : Option (List Nat) := (root.openAt p).head?

theorem mem_openAt (p h : List Nat) : h ∈ root.openAt p ↔ h <+: p ∧ root.opensAt h = true := by
  rw [openAt, List.mem_filter, List.mem_reverse, List.mem_inits]

theorem openAt_eq (p : List Nat) :
    root.openAt p = (if root.opensAt p then [p] else []) ++ root.openAbove p := by
  have hlast : p.inits = p.inits.dropLast ++ [p] := by
    induction p using List.reverseRecOn with
    | nil => rfl
    | append_singleton q i _ => simp [List.inits_append]
  rw [openAt, openAbove, hlast]
  by_cases hp : root.opensAt p = true <;> simp [hp]

theorem openAbove_concat (p : List Nat) (i : Nat) : root.openAbove (p ++ [i]) = root.openAt p := by
  simp [openAbove, openAt, List.inits_append]

theorem pairwise_inits (p : List Nat) : p.inits.Pairwise fun a b => a.length < b.length := by
  induction p with
  | nil => simp
  | cons i p ih =>
    rw [List.inits_cons, List.pairwise_cons, List.pairwise_map]
    refine ⟨by simp, ih.imp ?_⟩
    intro a b hlt
    simpa using hlt

theorem pairwise_openAt (p : List Nat) :
    (root.openAt p).Pairwise fun a b => b.length < a.length := by
  rw [openAt]
  exact (List.pairwise_reverse.2 (pairwise_inits p)).filter _

theorem dropWhile_openAt (p q : List Nat) :
    (root.openAt (p ++ q)).dropWhile (fun h => p.length + 1 ≤ h.length) = root.openAt p := by
  induction q using List.reverseRecOn with
  | nil =>
    rw [List.append_nil]
    cases hopen : root.openAt p with
    | nil => rfl
    | cons h hs =>
      have hmem : h ∈ root.openAt p := by simp [hopen]
      have hle := ((root.mem_openAt p h).1 hmem).1.length_le
      have hkeep : ¬ p.length + 1 ≤ h.length := by omega
      rw [List.dropWhile_cons_of_neg]
      rw [decide_eq_true_eq]
      exact hkeep
  | append_singleton q i ih =>
    rw [← List.append_assoc, openAt_eq, openAbove_concat]
    by_cases hopen : root.opensAt (p ++ q ++ [i]) = true
    · simpa [hopen] using ih
    · simpa [hopen] using ih

end Around

section Contents

variable (src : Text.Source) (root : Node)

def declaredNames (n : Node) : List String :=
  (Visit.declarations src ⟨0, none, false, n⟩).map (·.1)

def declaredAt (p : List Nat) : List String := ((root.at? p).map (declaredNames src)).getD []

/-- What the nodes at the addresses `ps` declare in the scope that is opened at `h`, or in no such scope,
latest first. -/
def namesIn (ps : List (List Nat)) (h : Option (List Nat)) : List String :=
  ((ps.filter (root.home? · == h)).flatMap (root.declaredAt src)).reverse

theorem mem_namesIn (ps : List (List Nat)) (h : Option (List Nat)) (x : String) :
    x ∈ root.namesIn src ps h ↔ ∃ q ∈ ps, root.home? q = h ∧ x ∈ root.declaredAt src q := by
  simp [namesIn, and_assoc]

theorem namesIn_concat (ps : List (List Nat)) (p : List Nat) (h : Option (List Nat)) :
    root.namesIn src (ps ++ [p]) h =
      (if root.home? p = h then (root.declaredAt src p).reverse else []) ++
        root.namesIn src ps h := by
  by_cases hp : root.home? p = h <;> simp [namesIn, hp]

/-- The scopes around `p` after visits to `ps`; `base` are the names of the outermost one at the
start. -/
def scopesIn (base : List String) (ps : List (List Nat)) (open' : List (List Nat)) : List Scope :=
  open'.map (fun h => ⟨h.length, root.namesIn src ps (some h)⟩) ++
    [⟨0, root.namesIn src ps none ++ base⟩]

theorem any_scopesIn (base : List String) (ps : List (List Nat)) (p : List Nat) (x : String) :
    (root.scopesIn src base ps (root.openAt p)).any (·.names.contains x) = true ↔ x ∈ base ∨
      ∃ q ∈ ps, x ∈ root.declaredAt src q ∧ ∀ h, root.home? q = some h → h <+: p := by
  have hopens : ∀ q h, root.home? q = some h → root.opensAt h = true := by
    intro q h hh
    exact ((root.mem_openAt q h).1 (List.mem_of_mem_head? hh)).2
  simp only [scopesIn, List.any_append, List.any_map, List.any_cons, List.any_nil, Bool.or_false,
    Bool.or_eq_true, List.any_eq_true, Function.comp_apply, List.contains_iff_mem, List.mem_append,
    mem_namesIn]
  constructor
  · rintro (⟨h, hmem, q, hq, hhome, hx⟩ | ⟨q, hq, hhome, hx⟩ | hx)
    · refine .inr ⟨q, hq, hx, ?_⟩
      intro h' hh'
      rw [hhome] at hh'
      cases hh'
      exact ((root.mem_openAt p h).1 hmem).1
    · refine .inr ⟨q, hq, hx, ?_⟩
      intro h' hh'
      rw [hhome] at hh'
      cases hh'
    · exact .inl hx
  · rintro (hx | ⟨q, hq, hx, hpath⟩)
    · exact .inr (.inr hx)
    · cases hhome : root.home? q with
      | none => exact .inr (.inl ⟨q, hq, hhome, hx⟩)
      | some h =>
        exact .inl ⟨h, (root.mem_openAt p h).2 ⟨hpath h hhome, hopens q h hhome⟩, q, hq, hhome, hx⟩

end Contents

end Node

namespace Collector

theorem closeTo_concat (d : Nat) (ss : List Scope) (s : Scope) :
    closeTo d (ss ++ [s]) = ss.dropWhile (fun t => d ≤ t.depth) ++ [s] := by
  induction ss with
  | nil => rfl
  | cons t ss ih =>
    have hstep : closeTo d (t :: (ss ++ [s])) =
        if d ≤ t.depth then closeTo d (ss ++ [s]) else t :: (ss ++ [s]) := by
      cases ss <;> rfl
    rw [List.cons_append, hstep]
    by_cases hd : d ≤ t.depth
    · simpa [hd] using ih
    · simp [hd]

theorem foldl_declareIn (names : List String) (s : Scope) (ss : List Scope) :
    names.foldl Scope.declareIn (s :: ss) = { s with names := names.reverse ++ s.names } :: ss := by
  induction names generalizing s with
  | nil => rfl
  | cons x names ih =>
    rw [List.foldl_cons, Scope.declareIn, ih]
    simp

variable {src : Text.Source} {fields : List String} {root : Node}

theorem scopes_step (c : Collector) (v : Visit) :
    (c.step src fields v).scopes = (v.node.declaredNames src).foldl Scope.declareIn
      (if v.node.kind.opensScope then ⟨v.depth, []⟩ :: closeTo v.depth c.scopes
        else closeTo v.depth c.scopes) := by
  rw [step_eq]
  rfl

theorem foldl_declareIn_scopesIn (base : List String) (ps : List (List Nat)) (p : List Nat) :
    (root.declaredAt src p).foldl Scope.declareIn (root.scopesIn src base ps (root.openAt p)) =
      root.scopesIn src base (ps ++ [p]) (root.openAt p) := by
  have horder := root.pairwise_openAt p
  have hhome : root.home? p = (root.openAt p).head? := rfl
  cases hopen : root.openAt p with
  | nil =>
    rw [hopen] at hhome
    simp [Node.scopesIn, foldl_declareIn, Node.namesIn_concat, hhome]
  | cons h hs =>
    rw [hopen] at hhome horder
    -- The other scopes are opened further out, so they are not where the node belongs.
    have hothers : hs.map (fun h' => (⟨h'.length, root.namesIn src (ps ++ [p]) (some h')⟩ : Scope)) =
        hs.map fun h' => ⟨h'.length, root.namesIn src ps (some h')⟩ := by
      refine List.map_congr_left fun h' hh' => ?_
      have hlt := List.rel_of_pairwise_cons horder hh'
      have hne : h ≠ h' := by
        rintro rfl
        omega
      simp [Node.namesIn_concat, hhome, hne]
    simp only [Node.scopesIn, List.map_cons, List.cons_append, foldl_declareIn, hothers]
    simp [Node.namesIn_concat, hhome]

theorem scopes_step_of_closed {c : Collector} {v : Visit} {base : List String}
    {ps : List (List Nat)} {p : List Nat} (hnode : root.at? p = some v.node)
    (hdepth : v.depth = p.length)
    (hclosed : closeTo p.length c.scopes = root.scopesIn src base ps (root.openAbove p))
    (hnew : ∀ q ∈ ps, root.home? q ≠ some p) :
    (c.step src fields v).scopes = root.scopesIn src base (ps ++ [p]) (root.openAt p) := by
  have hdeclared : v.node.declaredNames src = root.declaredAt src p := by
    rw [Node.declaredAt, hnode]
    rfl
  have hopens : v.node.kind.opensScope = root.opensAt p := by
    rw [Node.opensAt, hnode]
    rfl
  rw [scopes_step, hdepth, hclosed, hdeclared, hopens, ← foldl_declareIn_scopesIn]
  congr 1
  by_cases hp : root.opensAt p = true
  · have hempty : root.namesIn src ps (some p) = [] := by
      refine List.eq_nil_iff_forall_not_mem.2 fun x hx => ?_
      obtain ⟨q, hq, hhome, -⟩ := (root.mem_namesIn src ps (some p) x).1 hx
      exact hnew q hq hhome
    rw [if_pos hp, root.openAt_eq, if_pos hp]
    simp [Node.scopesIn, hempty]
  · rw [if_neg hp, root.openAt_eq, if_neg hp, List.nil_append]

/-- Coming to the next node closes the scopes that are not around it. -/
theorem closeTo_scopesIn (base : List String) (ps : List (List Nat)) {p q : List Nat}
    (h : Node.Follows p q) :
    closeTo q.length (root.scopesIn src base ps (root.openAt p)) =
      root.scopesIn src base ps (root.openAbove q) := by
  obtain ⟨hq, rest, hp⟩ := h
  obtain ⟨above, i, rfl⟩ : ∃ above i, q = above ++ [i] :=
    ⟨q.dropLast, q.getLast hq, (List.dropLast_append_getLast hq).symm⟩
  rw [List.dropLast_concat] at hp
  rw [Node.openAbove_concat, Node.scopesIn, closeTo_concat, List.dropWhile_map, Node.scopesIn, ← hp]
  congr 2
  rw [List.length_append, List.length_singleton]
  exact root.dropWhile_openAt above rest

theorem home?_ne_of_lt {p q : List Nat} (h : q < p) : root.home? q ≠ some p := by
  intro hhome
  have hprefix := ((root.mem_openAt q p).1 (List.mem_of_mem_head? hhome)).1
  exact absurd h (List.not_lt.2 hprefix.le)

/-- At every visit the open scopes are those around the node, below that of the parameters. -/
theorem scopes_after {c : Collector} {base : List String} (hc : c.scopes = [⟨0, base⟩])
    (parent : Option Node) {i : Nat} {p : List Nat} (hp : root.addresses[i]? = some p) :
    (((root.visits 0 parent false).take (i + 1)).foldl (step src fields) c).scopes =
      root.scopesIn src base (root.addresses.take (i + 1)) (root.openAt p) := by
  induction i generalizing p with
  | zero =>
    obtain ⟨v, hv, -, hnode, hdepth⟩ := Node.exists_visit parent hp
    obtain rfl : p = [] := by simpa [Node.addresses_eq, eq_comm] using hp
    have hclosed : closeTo 0 c.scopes = root.scopesIn src base [] (root.openAbove []) := by
      rw [hc]
      rfl
    have hstep : (c.step src fields v).scopes = _ :=
      scopes_step_of_closed hnode hdepth hclosed (by simp)
    simpa [List.take_add_one, hv, hp] using hstep
  | succ i ih =>
    obtain ⟨v, hv, -, hnode, hdepth⟩ := Node.exists_visit parent hp
    have hi : i < root.addresses.length := by
      have hlt := (List.getElem?_eq_some_iff.1 hp).1
      omega
    have hq : root.addresses[i]? = some root.addresses[i] := List.getElem?_eq_getElem hi
    have hfollows := Node.follows_of_getElem? hq hp
    have hclosed : closeTo p.length
        (((root.visits 0 parent false).take (i + 1)).foldl (step src fields) c).scopes =
        root.scopesIn src base (root.addresses.take (i + 1)) (root.openAbove p) := by
      rw [ih hq, closeTo_scopesIn base _ hfollows]
    have hnew : ∀ q ∈ root.addresses.take (i + 1), root.home? q ≠ some p := by
      intro q hmem
      obtain ⟨j, hj, rfl⟩ := List.mem_take_iff_getElem.1 hmem
      have hlt : j < i + 1 := by omega
      exact home?_ne_of_lt
        ((Node.lt_iff_of_getElem? (List.getElem?_eq_getElem (by omega)) hp).2 hlt)
    have hstep : (step src fields _ v).scopes = _ :=
      scopes_step_of_closed hnode hdepth hclosed hnew
    have hseen : root.addresses.take (i + 1 + 1) = root.addresses.take (i + 1) ++ [p] := by
      rw [List.take_add_one, hp]
      rfl
    have hvisits : (root.visits 0 parent false).take (i + 1 + 1) =
        (root.visits 0 parent false).take (i + 1) ++ [v] := by
      rw [List.take_add_one, hv]
      rfl
    rw [hseen, ← hstep, hvisits, List.foldl_append]
    rfl

end Collector

namespace Visit

variable (src : Text.Source) (v : Visit)

def readsThis (f : String) : Prop :=
  v.node.kind = .fieldAccess ∧ ∃ o m, v.node.child? .object = some o ∧
    v.node.child? .member = some m ∧ o.kind = .thisRef ∧ src.textOf m = f

def readsName (f : String) : Prop :=
  v.node.kind = .identifier ∧ v.isValue = true ∧ src.textOf v.node = f

instance (f : String) : Decidable (v.readsName src f) := inferInstanceAs (Decidable (_ ∧ _ ∧ _))

theorem mem_fieldUses (fields : List String) (declared : String → Bool) (f : String) :
    f ∈ v.fieldUses src fields declared ↔
      f ∈ fields ∧ (v.readsThis src f ∨ v.readsName src f ∧ declared f = false) := by
  unfold fieldUses
  split
  · rename_i hk
    have hname : ¬ v.readsName src f := by simp [readsName, hk]
    simp only [hname, false_and, or_false, readsThis, hk, true_and]
    cases v.node.child? .object with
    | none => simp
    | some o =>
      cases v.node.child? .member with
      | none => simp
      | some m =>
        simp only [List.mem_ite_nil_right, List.mem_singleton, Bool.and_eq_true, beq_iff_eq,
          List.contains_iff_mem]
        constructor
        · rintro ⟨⟨ho, hm⟩, rfl⟩
          exact ⟨hm, o, m, rfl, rfl, ho, rfl⟩
        · rintro ⟨hf, _, _, ⟨⟩, ⟨⟩, ho, rfl⟩
          exact ⟨⟨ho, hf⟩, rfl⟩
  · rename_i hk
    have hthis : ¬ v.readsThis src f := by simp [readsThis, hk]
    simp only [hthis, false_or, readsName, hk, true_and, List.mem_ite_nil_right,
      List.mem_singleton, Bool.and_eq_true, Bool.not_eq_true', List.contains_iff_mem]
    constructor
    · rintro ⟨⟨⟨hf, hvalue⟩, hdeclared⟩, rfl⟩
      exact ⟨hf, ⟨hvalue, rfl⟩, hdeclared⟩
    · rintro ⟨hf, ⟨hvalue, rfl⟩, hdeclared⟩
      exact ⟨⟨⟨hf, hvalue⟩, hdeclared⟩, rfl⟩
  · rename_i hfield hname
    have hthis : ¬ v.readsThis src f := fun h => hfield h.1
    have hnone : ¬ v.readsName src f := fun h => hname h.1
    simp [hthis, hnone]

end Visit

namespace Collector

variable {src : Text.Source} {fields : List String}

/-- Only names look at what is declared, and they declare nothing themselves. -/
theorem fieldUses_step (c : Collector) (v : Visit) :
    v.fieldUses src fields (c.enter v).isDeclared =
      v.fieldUses src fields (c.step src fields v).isDeclared := by
  by_cases hk : v.node.kind = .identifier
  · have hnone : v.declarations src = [] := by simp [Visit.declarations, hk]
    have hscopes : (c.step src fields v).scopes = (c.enter v).scopes := by
      rw [step_eq, receive, hnone]
      rfl
    have hdeclared : (c.step src fields v).isDeclared = (c.enter v).isDeclared := by
      funext x
      simp only [isDeclared, hscopes]
    rw [hdeclared]
  · unfold Visit.fieldUses
    split
    · rfl
    · contradiction
    · rfl

theorem fieldRefs_step (c : Collector) (v : Visit) :
    (c.step src fields v).body.fieldRefs =
      (v.fieldUses src fields (c.enter v).isDeclared).foldl (fun s x => insertName x s)
        c.body.fieldRefs := by
  rw [step_eq]
  rfl

theorem mem_fieldRefs_foldl (vs : List Visit) (c : Collector) (f : String) :
    f ∈ (vs.foldl (step src fields) c).body.fieldRefs ↔ f ∈ c.body.fieldRefs ∨
      ∃ (i : Nat) (v : Visit), vs[i]? = some v ∧
        f ∈ v.fieldUses src fields ((vs.take (i + 1)).foldl (step src fields) c).isDeclared := by
  induction vs generalizing c with
  | nil => simp
  | cons v rest ih =>
    rw [List.foldl_cons, ih, fieldRefs_step, mem_foldl_insertName, fieldUses_step]
    constructor
    · rintro ((hf | hf) | ⟨i, w, hw, hf⟩)
      · exact .inr ⟨0, v, rfl, hf⟩
      · exact .inl hf
      · exact .inr ⟨i + 1, w, hw, hf⟩
    · rintro (hf | ⟨i, w, hw, hf⟩)
      · exact .inl (.inr hf)
      · cases i with
        | zero =>
          obtain rfl : v = w := Option.some.inj hw
          exact .inl (.inl hf)
        | succ i => exact .inr ⟨i, w, hw, hf⟩

end Collector

namespace Node

variable (src : Text.Source) (fields : List String) (parameters : List Parameter)
  (parent : Option Node) (root : Node)

def stateAt (i : Nat) : Collector :=
  ((root.visits 0 parent false).take (i + 1)).foldl (Collector.step src fields) (.start parameters)

theorem walk_start : (Collector.start parameters).walk src fields parent root =
    (root.visits 0 parent false).foldl (Collector.step src fields) (.start parameters) := rfl

variable {root}

theorem scopes_stateAt {i : Nat} {p : List Nat} (hp : root.addresses[i]? = some p) :
    (root.stateAt src fields parameters parent i).scopes =
      root.scopesIn src (parameters.map (·.name)).reverse (root.addresses.take (i + 1))
        (root.openAt p) :=
  Collector.scopes_after rfl parent hp

theorem isDeclared_stateAt {i : Nat} {p : List Nat} (hp : root.addresses[i]? = some p)
    (x : String) : (root.stateAt src fields parameters parent i).isDeclared x = true ↔
      (∃ a ∈ parameters, a.name = x) ∨ ∃ (j : Nat) (q : List Nat), j ≤ i ∧
        root.addresses[j]? = some q ∧ x ∈ root.declaredAt src q ∧
          ∀ h, root.home? q = some h → h <+: p := by
  rw [Collector.isDeclared, scopes_stateAt src fields parameters parent hp, any_scopesIn]
  simp only [List.mem_reverse, List.mem_map]
  refine or_congr_right ?_
  constructor
  · rintro ⟨q, hq, hx, hpath⟩
    obtain ⟨j, hj, rfl⟩ := List.mem_take_iff_getElem.1 hq
    exact ⟨j, _, by omega, List.getElem?_eq_getElem (by omega), hx, hpath⟩
  · rintro ⟨j, q, hle, hj, hx, hpath⟩
    have hlt : j < i + 1 := by omega
    refine ⟨q, List.mem_iff_getElem?.2 ⟨j, ?_⟩, hx, hpath⟩
    rw [List.getElem?_take_of_lt hlt, hj]

variable (root)

theorem mem_fieldRefs_walk (f : String) :
    f ∈ ((Collector.start parameters).walk src fields parent root).body.fieldRefs ↔
      f ∈ fields ∧ ∃ (i : Nat) (v : Visit), (root.visits 0 parent false)[i]? = some v ∧
        (v.readsThis src f ∨ v.readsName src f ∧
          (root.stateAt src fields parameters parent i).isDeclared f = false) := by
  have hstart : f ∉ (Collector.start parameters).body.fieldRefs := by
    simp [Collector.start]
  rw [walk_start, Collector.mem_fieldRefs_foldl]
  simp only [hstart, false_or, Visit.mem_fieldUses, stateAt]
  constructor
  · rintro ⟨i, v, hv, hf, huse⟩
    exact ⟨hf, i, v, hv, huse⟩
  · rintro ⟨hf, i, v, hv, huse⟩
    exact ⟨i, v, hv, hf, huse⟩

end Node

end JavaMetrics
