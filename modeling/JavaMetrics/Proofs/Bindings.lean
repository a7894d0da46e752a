import JavaMetrics.Proofs.LexicalScopes

/-!
Where a declared name is in scope, and where the walk takes it for declared. In the language a local
variable is in scope from its own declarator on, a loop variable in the body of its loop, a resource in
its initializer, the later resources and the block, and the parameter of a catch clause or a
lambda expression in the block or body behind it. The walk declares a name when it comes to the
declaring node and forgets it behind the node that opens the scope, so it also covers what stands before
the scope in the declaring node, and the clauses behind the block of a try statement.
-/

set_option autoImplicit false

namespace JavaMetrics

structure Extent where
  around : List Nat
  first : List Nat

def Extent.Covers (e : Extent) (p : List Nat) : Prop := e.around <+: p ∧ ¬ p < e.first

instance (e : Extent) (p : List Nat) : Decidable (e.Covers p) :=
  inferInstanceAs (Decidable (_ ∧ _))

def Covered (es : List Extent) (p : List Nat) : Prop := ∃ e ∈ es, e.Covers p

instance (es : List Extent) (p : List Nat) : Decidable (Covered es p) :=
  inferInstanceAs (Decidable (∃ e ∈ es, e.Covers p))

/-- A declared name, with its scope and with the parts before and behind the scope that the walk adds
to it. -/
structure Binding where
  name : String
  scope : List Extent
  heads : List Extent

def Kind.holdsVariables : Kind → Bool
  | block | constructorBody | forStatement | enhancedForStatement | switchBlock => true
  | _ => false

namespace Node

section Bindings

variable (src : Text.Source) (b : Node)

def kindAt? (p : List Nat) : Option Kind := (b.at? p).map (·.kind)

def childrenAt (a : List Nat) : List Node := ((b.at? a).map (·.children)).getD []

def parts (a : List Nat) (chosen : Kind → Nat → Bool) : List Extent :=
  (b.childrenAt a).zipIdx.filterMap fun c =>
    if chosen c.1.kind c.2 then some ⟨a ++ [c.2], a ++ [c.2]⟩ else none

/-- The place of the last child that is no comment: the body of a loop or of a lambda expression, and the
initializer of a resource. -/
def lastPart (n : Node) : Nat :=
  n.children.length - 1 - n.children.reverse.findIdx (!·.kind.isComment)

def blockAround (q : List Nat) : List Nat :=
  (q.inits.reverse.find? fun h => (b.kindAt? h).any Kind.holdsVariables).getD []

def place (q : List Nat) : Nat := q.getLast?.getD 0

def nameIn (n : Node) : List String := (n.child? .name).toList.map src.textOf

def bodyBinding (q : List Nat) (n : Node) (x : String) : Binding where
  name := x
  scope := b.parts q fun _ i => i == n.lastPart
  heads := b.parts q fun _ i => !(i == n.lastPart)

def variableBindings (q : List Nat) (n : Node) : List Binding :=
  n.children.zipIdx.flatMap fun d =>
    if d.1.role == some .declarator then (d.1.nameIn src).map fun x =>
      { name := x
        scope := [⟨b.blockAround q, q ++ [d.2]⟩]
        heads := b.parts q fun _ j => j < d.2 }
    else []

def resourceBinding (q : List Nat) (n : Node) (x : String) : Binding where
  name := x
  scope := (b.parts q fun _ i => i == n.lastPart) ++
    (b.parts q.dropLast fun _ i => place q < i) ++
    b.parts q.dropLast.dropLast fun k _ => k == .block
  heads := (b.parts q fun _ i => !(i == n.lastPart)) ++
    b.parts q.dropLast.dropLast fun k i => place q.dropLast < i && !(k == .block)

def catchBinding (q : List Nat) (x : String) : Binding where
  name := x
  scope := b.parts q.dropLast fun k _ => k == .block
  heads := ⟨q, q⟩ :: b.parts q.dropLast fun k i => place q < i && !(k == .block)

def bindingsAt (q : List Nat) : List Binding :=
  match b.at? q with
  | none => []
  | some n =>
    match n.kind with
    | .localVariableDeclaration => b.variableBindings src q n
    | .enhancedForStatement => (n.nameIn src).map (b.bodyBinding q n)
    | .resource => (n.nameIn src).map (b.resourceBinding q n)
    | .catchFormalParameter => (n.nameIn src).map (b.catchBinding q)
    | .lambdaExpression =>
      ((n.child? .parameters).toList.flatMap (Collector.lambdaNames src)).map (b.bodyBinding q n)
    | _ => []

/-- The parameters of variable arity of a lambda expression, which the walk passes over. -/
def variadicsAt (q : List Nat) : List Binding :=
  match b.at? q with
  | none => []
  | some n =>
    match n.kind with
    | .lambdaExpression =>
      let spread := (n.child? .parameters).toList.flatMap fun ps =>
        ps.children.filter (·.kind == .spreadParameter)
      let declarators := spread.flatMap fun s => s.children.filter (·.kind == .variableDeclarator)
      (declarators.flatMap (nameIn src)).map (b.bodyBinding q n)
    | _ => []

def InScope (x : String) (p : List Nat) : Prop :=
  ∃ q ∈ b.addresses, ∃ d ∈ b.bindingsAt src q, d.name = x ∧ Covered d.scope p

/-- The address is where the walk has a declaration of the name hide too much. -/
def InHead (x : String) (p : List Nat) : Prop :=
  ∃ q ∈ b.addresses, ∃ d ∈ b.bindingsAt src q, d.name = x ∧ Covered d.heads p

def InVariadicScope (x : String) (p : List Nat) : Prop :=
  ∃ q ∈ b.addresses, ∃ d ∈ b.variadicsAt src q, d.name = x ∧ Covered d.scope p

instance (x : String) (p : List Nat) : Decidable (b.InScope src x p) :=
  inferInstanceAs (Decidable (∃ q ∈ b.addresses, ∃ d ∈ b.bindingsAt src q,
    d.name = x ∧ Covered d.scope p))

instance (x : String) (p : List Nat) : Decidable (b.InHead src x p) :=
  inferInstanceAs (Decidable (∃ q ∈ b.addresses, ∃ d ∈ b.bindingsAt src q,
    d.name = x ∧ Covered d.heads p))

instance (x : String) (p : List Nat) : Decidable (b.InVariadicScope src x p) :=
  inferInstanceAs (Decidable (∃ q ∈ b.addresses, ∃ d ∈ b.variadicsAt src q,
    d.name = x ∧ Covered d.scope p))

end Bindings

section Bodies

variable (b : Node)

def blocksBehind (q : List Nat) : Bool :=
  (b.childrenAt q.dropLast).zipIdx.all fun c => !(c.1.kind == .block) || place q < c.2

def isTyped (n : Node) : Bool := (n.child? .type).isSome || (n.child? .name).isNone

/-- The grammar's rules on declaring nodes: what they stand in, and what they say. -/
def wellPlaced (q : List Nat) : Bool :=
  match b.at? q with
  | none => true
  | some n =>
    match n.kind with
    | .localVariableDeclaration => ((b.home? q).bind b.kindAt?).any Kind.holdsVariables
    | .enhancedForStatement => n.isTyped
    | .resource => n.isTyped && b.kindAt? q.dropLast == some .resourceSpecification &&
      b.kindAt? q.dropLast.dropLast == some .tryWithResourcesStatement && b.blocksBehind q.dropLast
    | .catchFormalParameter => b.kindAt? q.dropLast == some .catchClause && b.blocksBehind q
    | _ => true

def IsBody : Prop := ∀ q ∈ b.addresses, b.wellPlaced q = true

instance : Decidable b.IsBody :=
  inferInstanceAs (Decidable (∀ q ∈ b.addresses, b.wellPlaced q = true))

end Bodies

section Parts

variable {b m : Node} {p : List Nat}

theorem covered_append (es fs : List Extent) (p : List Nat) :
    Covered (es ++ fs) p ↔ Covered es p ∨ Covered fs p := by
  simp only [Covered, List.mem_append, or_and_right, exists_or]

theorem covers_whole (a p : List Nat) : Extent.Covers ⟨a, a⟩ p ↔ a <+: p :=
  ⟨fun h => h.1, fun h => ⟨h, List.not_lt.2 h.le⟩⟩

theorem at?_childrenAt (b : Node) (a : List Nat) (i : Nat) :
    b.at? (a ++ [i]) = (b.childrenAt a)[i]? := by
  cases ha : b.at? a with
  | none => simp [at?_append, childrenAt, ha]
  | some n =>
    rw [at?_concat ha]
    simp [childrenAt, ha]

theorem covered_parts (b : Node) (a p : List Nat) (chosen : Kind → Nat → Bool) :
    Covered (b.parts a chosen) p ↔
      ∃ i c, b.at? (a ++ [i]) = some c ∧ chosen c.kind i = true ∧ a ++ [i] <+: p := by
  constructor
  · rintro ⟨e, he, hcovers⟩
    obtain ⟨⟨c, i⟩, hc, hif⟩ := List.mem_filterMap.1 he
    rw [List.mem_zipIdx_iff_getElem?, ← at?_childrenAt] at hc
    by_cases hchosen : chosen c.kind i = true
    · obtain rfl : _ = e := by simpa [hchosen] using hif
      exact ⟨i, c, hc, hchosen, (covers_whole _ p).1 hcovers⟩
    · simp [hchosen] at hif
  · rintro ⟨i, c, hc, hchosen, hprefix⟩
    refine ⟨⟨a ++ [i], a ++ [i]⟩, List.mem_filterMap.2 ⟨(c, i), ?_, by simp [hchosen]⟩,
      (covers_whole _ p).2 hprefix⟩
    rw [List.mem_zipIdx_iff_getElem?, ← at?_childrenAt]
    exact hc

theorem covered_parts_congr {a : List Nat} {chosen chosen' : Kind → Nat → Bool}
    (h : ∀ i c, b.at? (a ++ [i]) = some c → chosen c.kind i = chosen' c.kind i) (p : List Nat) :
    Covered (b.parts a chosen) p ↔ Covered (b.parts a chosen') p := by
  rw [covered_parts, covered_parts]
  refine exists_congr fun i => exists_congr fun c => and_congr_right fun hc => ?_
  rw [h i c hc]

theorem covered_parts_split (b : Node) (a p : List Nat) (chosen cut : Kind → Nat → Bool) :
    Covered (b.parts a chosen) p ↔ Covered (b.parts a fun k i => chosen k i && cut k i) p ∨
      Covered (b.parts a fun k i => chosen k i && !cut k i) p := by
  simp only [covered_parts, Bool.and_eq_true, Bool.not_eq_true', ← exists_or]
  refine exists_congr fun i => exists_congr fun c => ?_
  cases cut c.kind i <;> simp

theorem exists_child_of_prefix {a : List Nat} (hp : b.at? p = some m) (ha : a <+: p) (hne : p ≠ a) :
    ∃ i c, b.at? (a ++ [i]) = some c ∧ a ++ [i] <+: p := by
  obtain ⟨rest, rfl⟩ := ha
  cases rest with
  | nil => simp at hne
  | cons i rest =>
    have hsplit : a ++ i :: rest = a ++ [i] ++ rest := by simp
    rw [hsplit] at hp
    obtain ⟨c, hc, -⟩ := exists_at?_of_append hp
    exact ⟨i, c, hc, by simp⟩

theorem covered_whole (hp : b.at? p = some m) {a : List Nat} (hne : p ≠ a)
    (cut : Kind → Nat → Bool) :
    a <+: p ↔ Covered (b.parts a cut) p ∨ Covered (b.parts a fun k i => !cut k i) p := by
  have hsplit := covered_parts_split b a p (fun _ _ => true) cut
  simp only [Bool.true_and] at hsplit
  rw [← hsplit, covered_parts]
  constructor
  · intro ha
    obtain ⟨i, c, hc, hi⟩ := exists_child_of_prefix hp ha hne
    exact ⟨i, c, hc, rfl, hi⟩
  · rintro ⟨i, c, -, -, hi⟩
    exact (List.prefix_append a [i]).trans hi

end Parts

theorem append_lt_append_iff (a s t : List Nat) : a ++ s < a ++ t ↔ s < t := by
  induction a with
  | nil => rfl
  | cons i a ih => simp [ih]

theorem place_le_of_not_lt {a p rest : List Nat} {i k : Nat} (hi : a ++ [i] <+: p)
    (hle : ¬ p < a ++ k :: rest) : k ≤ i := by
  obtain ⟨tail, rfl⟩ := hi
  rw [List.append_assoc, append_lt_append_iff, List.singleton_append, List.cons_lt_cons_iff] at hle
  omega

theorem not_lt_of_place_lt {a p : List Nat} {i k : Nat} (hi : a ++ [i] <+: p) (hlt : k < i)
    (rest : List Nat) : ¬ p < a ++ k :: rest := by
  obtain ⟨tail, rfl⟩ := hi
  rw [List.append_assoc, append_lt_append_iff, List.singleton_append, List.cons_lt_cons_iff]
  omega

/-- What stands in a node from some place below its child number `k` on: the rest of that child, and the
children behind it. -/
theorem covered_from {b m : Node} {a p : List Nat} (hp : b.at? p = some m) (hne : p ≠ a) (k : Nat)
    (rest : List Nat) : a <+: p ∧ ¬ p < a ++ k :: rest ↔
      (a ++ [k] <+: p ∧ ¬ p < a ++ k :: rest) ∨ Covered (b.parts a fun _ i => k < i) p := by
  rw [covered_parts]
  constructor
  · rintro ⟨ha, hle⟩
    obtain ⟨i, c, hc, hi⟩ := exists_child_of_prefix hp ha hne
    rcases Nat.eq_or_lt_of_le (place_le_of_not_lt hi hle) with rfl | hlt
    · exact .inl ⟨hi, hle⟩
    · exact .inr ⟨i, c, hc, by simpa using hlt, hi⟩
  · rintro (⟨hk, hle⟩ | ⟨i, c, -, hlt, hi⟩)
    · exact ⟨(List.prefix_append a [k]).trans hk, hle⟩
    · exact ⟨(List.prefix_append a [i]).trans hi, not_lt_of_place_lt hi (by simpa using hlt) rest⟩

theorem exists_append_of_lt {q p rest : List Nat} (hle : ¬ p < q) (hlt : p < q ++ rest) :
    ∃ tail, p = q ++ tail ∧ tail < rest := by
  induction q generalizing p with
  | nil => exact ⟨p, rfl, hlt⟩
  | cons k q ih =>
    cases p with
    | nil => exact absurd (List.nil_lt_cons k q) hle
    | cons j p =>
      rw [List.cons_append, List.cons_lt_cons_iff] at hlt
      rw [List.cons_lt_cons_iff, not_or, not_and] at hle
      obtain ⟨rfl, hbelow⟩ := hlt.resolve_left hle.1
      obtain ⟨tail, rfl, htail⟩ := ih (hle.2 rfl) hbelow
      exact ⟨tail, rfl, htail⟩

section Names

variable (src : Text.Source) {n : Node}

theorem declaredNames_local (hk : n.kind = .localVariableDeclaration) (x : String) :
    x ∈ n.declaredNames src ↔ ∃ (i : Nat) (d : Node), n.children[i]? = some d ∧
      d.role = some .declarator ∧ x ∈ d.nameIn src := by
  simp only [declaredNames, Visit.declarations, hk, inRole, nameIn, List.map_filterMap,
    Option.map_map, Function.comp_def, List.mem_map, List.mem_filterMap, List.mem_filter,
    beq_iff_eq, Option.map_eq_some_iff, Option.mem_toList]
  constructor
  · rintro ⟨d, ⟨hd, hrole⟩, hname⟩
    obtain ⟨i, hi⟩ := List.mem_iff_getElem?.1 hd
    exact ⟨i, d, hi, hrole, hname⟩
  · rintro ⟨i, d, hi, hrole, hname⟩
    exact ⟨d, ⟨List.mem_of_getElem? hi, hrole⟩, hname⟩

theorem declaredNames_typed (hk : n.kind = .enhancedForStatement ∨ n.kind = .resource)
    (ht : n.isTyped = true) : n.declaredNames src = n.nameIn src := by
  unfold isTyped at ht
  rcases hk with hk | hk <;>
  · simp only [declaredNames, Visit.declarations, hk, nameIn]
    cases htype : n.child? .type <;> cases hname : n.child? .name <;> simp_all

theorem declaredNames_catch (hk : n.kind = .catchFormalParameter) :
    n.declaredNames src = n.nameIn src := by
  simp only [declaredNames, Visit.declarations, hk, nameIn]
  cases n.child? .name <;> simp

theorem declaredNames_lambda (hk : n.kind = .lambdaExpression) :
    n.declaredNames src = (n.child? .parameters).toList.flatMap (Collector.lambdaNames src) := by
  simp only [declaredNames, Visit.declarations, hk]
  cases n.child? .parameters with
  | none => rfl
  | some ps => simp [Function.comp_def]

end Names

section Homes

variable {b : Node} {q : List Nat} {k : Kind}

theorem opensAt_of_kind (h : b.kindAt? q = some k) : b.opensAt q = k.opensScope := by
  obtain ⟨n, hn, rfl⟩ := Option.map_eq_some_iff.1 h
  simp [opensAt, hn]

theorem home?_of_opens (h : b.opensAt q = true) : b.home? q = some q := by
  simp [home?, openAt_eq, h]

theorem eq_concat_of_parent {k' : Kind} (h : b.kindAt? q = some k)
    (hparent : b.kindAt? q.dropLast = some k') (hne : k ≠ k') : q = q.dropLast ++ [place q] := by
  cases q using List.reverseRecOn with
  | nil =>
    rw [List.dropLast_nil, h] at hparent
    exact absurd (Option.some.inj hparent) hne
  | append_singleton s i => simp [place]

theorem home?_dropLast {i : Nat} (hq : q = q.dropLast ++ [i]) (h : b.kindAt? q = some k)
    (hk : k.opensScope = false) : b.home? q = b.home? q.dropLast := by
  have hclosed : b.opensAt q = false := (opensAt_of_kind h).trans hk
  have habove : b.openAbove q = b.openAt q.dropLast := by
    rw [hq, openAbove_concat, List.dropLast_concat]
  simp [home?, openAt_eq b q, hclosed, habove]

theorem opensScope_of_holdsVariables (h : k.holdsVariables = true) : k.opensScope = true := by
  unfold Kind.holdsVariables at h
  split at h
  case h_6 => cases h
  all_goals rfl

/-- Where variables may be declared, the scope around a declaration is that of the innermost block. -/
theorem home?_eq_blockAround (h : ((b.home? q).bind b.kindAt?).any Kind.holdsVariables = true) :
    b.home? q = some (b.blockAround q) := by
  have hopens : ∀ a, (b.kindAt? a).any Kind.holdsVariables = true → b.opensAt a = true := by
    intro a ha
    obtain ⟨k, hk, hholds⟩ := (Option.any_eq_true _ _).1 ha
    rw [opensAt_of_kind hk, opensScope_of_holdsVariables hholds]
  cases hhome : b.home? q with
  | none => simp [hhome] at h
  | some a =>
    rw [hhome, Option.bind_some] at h
    -- What holds variables opens a scope, so nothing nearer than this node holds them.
    rw [home?, openAt, List.head?_filter, List.find?_eq_some_iff_append] at hhome
    obtain ⟨-, before, after, hinits, hbefore⟩ := hhome
    have hfind : (q.inits.reverse.find? fun h => (b.kindAt? h).any Kind.holdsVariables) = some a := by
      refine List.find?_eq_some_iff_append.2 ⟨h, before, after, hinits, ?_⟩
      intro a' ha'
      have hclosed := hbefore a' ha'
      by_contra hholds
      simp [hopens a' (by simpa using hholds)] at hclosed
    rw [blockAround, hfind]
    rfl

end Homes

section Coverage

variable {b m : Node} {p : List Nat}

theorem ne_of_kind {q : List Nat} {k : Kind} (hp : b.at? p = some m) (hm : m.kind = .identifier)
    (hq : b.kindAt? q = some k) (hk : k ≠ .identifier) : p ≠ q := by
  rintro rfl
  rw [kindAt?, hp] at hq
  exact hk ((Option.some.inj hq).symm.trans hm)

theorem covered_behind {q : List Nat} (hb : b.blocksBehind q = true) (p : List Nat) :
    Covered (b.parts q.dropLast fun _ i => place q < i) p ↔
      Covered (b.parts q.dropLast fun k _ => k == .block) p ∨
        Covered (b.parts q.dropLast fun k i => place q < i && !(k == .block)) p := by
  rw [covered_parts_split b q.dropLast p _ fun k _ => k == .block]
  refine or_congr_left (covered_parts_congr ?_ p)
  intro i c hc
  rw [at?_childrenAt] at hc
  have hbehind := List.all_eq_true.1 hb (c, i) (List.mem_zipIdx_iff_getElem?.2 hc)
  by_cases hblock : c.kind = .block <;> simp_all

theorem covered_body {q : List Nat} {n : Node} (hp : b.at? p = some m) (hm : m.kind = .identifier)
    (hq : b.at? q = some n) (hopens : n.kind.opensScope = true) (x : String) :
    (¬ p < q ∧ ∀ h, b.home? q = some h → h <+: p) ↔
      Covered (b.bodyBinding q n x).scope p ∨ Covered (b.bodyBinding q n x).heads p := by
  have hkind : b.kindAt? q = some n.kind := by simp [kindAt?, hq]
  have hne : p ≠ q := ne_of_kind hp hm hkind (by
    intro hk
    simp [hk, Kind.opensScope] at hopens)
  have hhome : b.home? q = some q := home?_of_opens (by rw [opensAt_of_kind hkind, hopens])
  rw [bodyBinding, ← covered_whole hp hne, hhome]
  simp only [Option.some.injEq, forall_eq']
  exact and_iff_right_of_imp fun hpre => List.not_lt.2 hpre.le

theorem covered_resource {q : List Nat} {n : Node} (hp : b.at? p = some m)
    (hm : m.kind = .identifier) (hq : b.kindAt? q = some .resource)
    (hspec : b.kindAt? q.dropLast = some .resourceSpecification)
    (htry : b.kindAt? q.dropLast.dropLast = some .tryWithResourcesStatement)
    (hblocks : b.blocksBehind q.dropLast = true) (x : String) :
    (¬ p < q ∧ ∀ h, b.home? q = some h → h <+: p) ↔
      Covered (b.resourceBinding q n x).scope p ∨ Covered (b.resourceBinding q n x).heads p := by
  have hinner := eq_concat_of_parent hq hspec (by decide)
  have houter := eq_concat_of_parent hspec htry (by decide)
  -- Neither the resource nor the list around it opens a scope.
  have hhome : b.home? q = some q.dropLast.dropLast := by
    rw [home?_dropLast hinner hq rfl, home?_dropLast houter hspec rfl]
    exact home?_of_opens (opensAt_of_kind htry)
  have hlist : ¬ p < q ∧ q.dropLast <+: p ↔
      q <+: p ∨ Covered (b.parts q.dropLast fun _ i => place q < i) p := by
    have hfrom := covered_from hp (ne_of_kind hp hm hspec (by decide)) (place q) []
    rw [← hinner] at hfrom
    rw [and_comm, hfrom]
    exact or_congr_left (and_iff_left_of_imp fun hpre => List.not_lt.2 hpre.le)
  have hall : ¬ p < q ∧ q.dropLast.dropLast <+: p ↔ (¬ p < q ∧ q.dropLast <+: p) ∨
      Covered (b.parts q.dropLast.dropLast fun _ i => place q.dropLast < i) p := by
    have hfrom := covered_from hp (ne_of_kind hp hm htry (by decide)) (place q.dropLast) [place q]
    have hwhole : q.dropLast.dropLast ++ [place q.dropLast, place q] = q := by
      calc q.dropLast.dropLast ++ [place q.dropLast, place q]
          = q.dropLast.dropLast ++ [place q.dropLast] ++ [place q] := by simp
        _ = q.dropLast ++ [place q] := by rw [← houter]
        _ = q := hinner.symm
    rw [← houter, hwhole] at hfrom
    rw [and_comm, hfrom, and_comm]
  rw [hhome]
  simp only [Option.some.injEq, forall_eq']
  rw [hall, hlist, covered_behind hblocks,
    covered_whole hp (ne_of_kind hp hm hq (by decide)) fun _ i => i == n.lastPart]
  simp only [resourceBinding, covered_append]
  exact iff_of_eq (by ac_rfl)

theorem covered_catch {q : List Nat} (hp : b.at? p = some m) (hm : m.kind = .identifier)
    (hq : b.kindAt? q = some .catchFormalParameter)
    (hclause : b.kindAt? q.dropLast = some .catchClause) (hblocks : b.blocksBehind q = true)
    (x : String) : (¬ p < q ∧ ∀ h, b.home? q = some h → h <+: p) ↔
      Covered (b.catchBinding q x).scope p ∨ Covered (b.catchBinding q x).heads p := by
  have hinner := eq_concat_of_parent hq hclause (by decide)
  have hhome : b.home? q = some q.dropLast := by
    rw [home?_dropLast hinner hq rfl]
    exact home?_of_opens (opensAt_of_kind hclause)
  have hfrom := covered_from hp (ne_of_kind hp hm hclause (by decide)) (place q) []
  rw [← hinner, covered_behind hblocks] at hfrom
  have hown : Covered (b.catchBinding q x).heads p ↔ q <+: p ∨
      Covered (b.parts q.dropLast fun k i => place q < i && !(k == .block)) p := by
    rw [← covers_whole]
    simp [catchBinding, Covered]
  have hself : q <+: p ∧ ¬ p < q ↔ q <+: p :=
    and_iff_left_of_imp fun hpre => List.not_lt.2 hpre.le
  rw [hhome]
  simp only [Option.some.injEq, forall_eq']
  rw [and_comm, hfrom, hself, hown, catchBinding, or_left_comm]

theorem covered_local {q : List Nat} (hp : b.at? p = some m) (hm : m.kind = .identifier)
    (hq : b.kindAt? q = some .localVariableDeclaration)
    (hholds : ((b.home? q).bind b.kindAt?).any Kind.holdsVariables = true) (i : Nat) :
    (¬ p < q ∧ ∀ h, b.home? q = some h → h <+: p) ↔
      Covered [⟨b.blockAround q, q ++ [i]⟩] p ∨ Covered (b.parts q fun _ j => j < i) p := by
  have hne : p ≠ q := ne_of_kind hp hm hq (by decide)
  have hhome := home?_eq_blockAround hholds
  have haround : b.blockAround q <+: q :=
    ((b.mem_openAt q _).1 (List.mem_of_mem_head? hhome)).1
  rw [hhome, covered_parts]
  simp only [Option.some.injEq, forall_eq', Covered, List.mem_singleton, exists_eq_left,
    Extent.Covers]
  constructor
  · rintro ⟨hle, hin⟩
    by_cases hlt : p < q ++ [i]
    · obtain ⟨tail, rfl, htail⟩ := exists_append_of_lt hle hlt
      cases tail with
      | nil => simp at hne
      | cons j rest =>
        have hj : j < i := by simpa using List.cons_lt_cons_iff.1 htail
        rw [List.append_cons] at hp
        obtain ⟨c, hc, -⟩ := exists_at?_of_append hp
        exact .inr ⟨j, c, hc, by simpa using hj, by simp⟩
    · exact .inl ⟨hin, hlt⟩
  · rintro (⟨hin, hle⟩ | ⟨j, c, -, -, hpre⟩)
    · have hown : q < q ++ [i] := by
        simpa using (append_lt_append_iff q [] [i]).2 (List.nil_lt_cons i [])
      exact ⟨fun hlt => hle (List.lt_trans hlt hown), hin⟩
    · have hin := (List.prefix_append q [j]).trans hpre
      exact ⟨List.not_lt.2 hin.le, haround.trans hin⟩

end Coverage

section Reach

variable (src : Text.Source) (b : Node)

def Reached (x : String) (p : List Nat) : Prop :=
  ∃ q ∈ b.addresses, x ∈ b.declaredAt src q ∧ ¬ p < q ∧ ∀ h, b.home? q = some h → h <+: p

theorem exists_named_binding {names : List String} {f : String → Binding}
    (hf : ∀ y, (f y).name = y) (x : String) (P : Binding → Prop) :
    (∃ d ∈ names.map f, d.name = x ∧ P d) ↔ x ∈ names ∧ P (f x) := by
  constructor
  · rintro ⟨d, hd, rfl, hP⟩
    obtain ⟨y, hy, rfl⟩ := List.mem_map.1 hd
    rw [hf]
    exact ⟨hy, hP⟩
  · rintro ⟨hx, hP⟩
    exact ⟨f x, List.mem_map_of_mem hx, hf x, hP⟩

theorem exists_variableBinding (q : List Nat) (n : Node) (x : String) (P : Binding → Prop) :
    (∃ d ∈ b.variableBindings src q n, d.name = x ∧ P d) ↔
      ∃ (i : Nat) (d : Node), n.children[i]? = some d ∧ d.role = some .declarator ∧
        x ∈ d.nameIn src ∧
          P ⟨x, [⟨b.blockAround q, q ++ [i]⟩], b.parts q fun _ j => j < i⟩ := by
  constructor
  · rintro ⟨d, hd, hname, hP⟩
    obtain ⟨⟨c, i⟩, hc, hmem⟩ := List.mem_flatMap.1 hd
    by_cases hrole : c.role = some .declarator
    · obtain ⟨y, hy, rfl⟩ : ∃ y ∈ c.nameIn src, _ = d := by simpa [hrole] using hmem
      obtain rfl : y = x := hname
      exact ⟨i, c, List.mem_zipIdx_iff_getElem?.1 hc, hrole, hy, hP⟩
    · simp [hrole] at hmem
  · rintro ⟨i, c, hc, hrole, hx, hP⟩
    refine ⟨_, List.mem_flatMap.2 ⟨(c, i), List.mem_zipIdx_iff_getElem?.2 hc, ?_⟩, rfl, hP⟩
    simpa [hrole] using hx

variable {src b} {m : Node} {p : List Nat}

/-- One declaring node: where the walk takes its names for declared is their scope and its heads. -/
theorem reached_at (hb : b.IsBody) (hp : b.at? p = some m) (hm : m.kind = .identifier)
    {q : List Nat} {n : Node} (hq : b.at? q = some n) (x : String) :
    (x ∈ n.declaredNames src ∧ ¬ p < q ∧ ∀ h, b.home? q = some h → h <+: p) ↔
      ∃ d ∈ b.bindingsAt src q, d.name = x ∧ (Covered d.scope p ∨ Covered d.heads p) := by
  have hplaced := hb q ((b.mem_addresses q).2 ⟨n, hq⟩)
  have hkind : b.kindAt? q = some n.kind := by simp [kindAt?, hq]
  simp only [wellPlaced, hq] at hplaced
  simp only [bindingsAt, hq]
  split
  case h_1 hk =>
    rw [exists_variableBinding, declaredNames_local src hk]
    simp only [hk] at hplaced hkind
    simp only [← covered_local hp hm hkind hplaced]
    constructor
    · rintro ⟨⟨i, d, hd, hrole, hx⟩, hreach⟩
      exact ⟨i, d, hd, hrole, hx, hreach⟩
    · rintro ⟨i, d, hd, hrole, hx, hreach⟩
      exact ⟨⟨i, d, hd, hrole, hx⟩, hreach⟩
  case h_2 hk =>
    simp only [hk] at hplaced
    rw [exists_named_binding fun _ => rfl, declaredNames_typed src (.inl hk) hplaced,
      covered_body hp hm hq (by rw [hk]; rfl)]
  case h_3 hk =>
    simp only [hk, Bool.and_eq_true, beq_iff_eq] at hplaced hkind
    obtain ⟨⟨⟨htyped, hspec⟩, htry⟩, hblocks⟩ := hplaced
    rw [exists_named_binding fun _ => rfl, declaredNames_typed src (.inr hk) htyped,
      covered_resource hp hm hkind hspec htry hblocks]
  case h_4 hk =>
    simp only [hk, Bool.and_eq_true, beq_iff_eq] at hplaced hkind
    rw [exists_named_binding fun _ => rfl, declaredNames_catch src hk,
      covered_catch hp hm hkind hplaced.1 hplaced.2]
  case h_5 hk =>
    rw [exists_named_binding fun _ => rfl, declaredNames_lambda src hk,
      covered_body hp hm hq (by rw [hk]; rfl)]
  case h_6 =>
    have hnone : n.declaredNames src = [] := by
      unfold declaredNames Visit.declarations
      split <;> simp_all
    simp [hnone]

theorem reached_iff (hb : b.IsBody) (hp : b.at? p = some m) (hm : m.kind = .identifier)
    (x : String) : b.Reached src x p ↔ b.InScope src x p ∨ b.InHead src x p := by
  have hat : ∀ q ∈ b.addresses,
      (x ∈ b.declaredAt src q ∧ ¬ p < q ∧ ∀ h, b.home? q = some h → h <+: p) ↔
        ∃ d ∈ b.bindingsAt src q, d.name = x ∧ (Covered d.scope p ∨ Covered d.heads p) := by
    intro q hmem
    obtain ⟨n, hn⟩ := (b.mem_addresses q).1 hmem
    rw [← reached_at hb hp hm hn x, declaredAt, hn]
    rfl
  constructor
  · rintro ⟨q, hmem, hreach⟩
    obtain ⟨d, hd, hname, hscope | hhead⟩ := (hat q hmem).1 hreach
    · exact .inl ⟨q, hmem, d, hd, hname, hscope⟩
    · exact .inr ⟨q, hmem, d, hd, hname, hhead⟩
  · rintro (⟨q, hmem, d, hd, hname, hcovered⟩ | ⟨q, hmem, d, hd, hname, hcovered⟩)
    · exact ⟨q, hmem, (hat q hmem).2 ⟨d, hd, hname, .inl hcovered⟩⟩
    · exact ⟨q, hmem, (hat q hmem).2 ⟨d, hd, hname, .inr hcovered⟩⟩

end Reach

end Node

end JavaMetrics
