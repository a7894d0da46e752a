import Mathlib.Data.List.Chain
import Mathlib.Data.List.Infix
import JavaMetrics.Facts.Collect

set_option autoImplicit false

namespace JavaMetrics

namespace Node

def at? (n : Node) : List Nat → Option Node
  | [] => some n
  | i :: p => n.children[i]?.bind fun c => c.at? p

mutual

def addresses : Node → List (List Nat)
  | mk _ _ _ _ cs => [] :: addressesAll 0 cs

def addressesAll (i : Nat) : List Node → List (List Nat)
  | [] => []
  | n :: ns => n.addresses.map (i :: ·) ++ addressesAll (i + 1) ns

end

theorem addresses_eq (n : Node) : n.addresses = [] :: addressesAll 0 n.children := by
  cases n
  rw [addresses]
  rfl

theorem at?_append (n : Node) (p q : List Nat) : n.at? (p ++ q) = (n.at? p).bind (·.at? q) := by
  induction p generalizing n with
  | nil => rfl
  | cons i p ih =>
    rw [List.cons_append, at?, at?]
    cases n.children[i]? with
    | none => rfl
    | some c => exact ih c

theorem at?_concat {n m : Node} {p : List Nat} (h : n.at? p = some m) (i : Nat) :
    n.at? (p ++ [i]) = m.children[i]? := by
  rw [at?_append, h, Option.bind_some, at?]
  cases m.children[i]? <;> rfl

theorem exists_at?_of_append {n m : Node} {p q : List Nat} (h : n.at? (p ++ q) = some m) :
    ∃ k, n.at? p = some k ∧ k.at? q = some m := by
  rw [at?_append] at h
  exact Option.bind_eq_some_iff.1 h

mutual

theorem mem_addresses : ∀ (n : Node) (p : List Nat), p ∈ n.addresses ↔ ∃ m, n.at? p = some m
  | mk k r s e cs, p => by
    have hcs := mem_addressesAll 0 cs p
    cases p with
    | nil => simp [addresses, at?]
    | cons i p =>
      rw [addresses, List.mem_cons, hcs]
      simp only [at?, children, Option.bind_eq_some_iff, List.cons.injEq, Nat.zero_add]
      constructor
      · rintro (hnil | ⟨j, q, c, m, ⟨rfl, rfl⟩, hc, hm⟩)
        · cases hnil
        · exact ⟨m, c, hc, hm⟩
      · rintro ⟨m, c, hc, hm⟩
        exact .inr ⟨i, p, c, m, ⟨rfl, rfl⟩, hc, hm⟩

theorem mem_addressesAll (i : Nat) : ∀ (ns : List Node) (p : List Nat), p ∈ addressesAll i ns ↔
    ∃ j q c m, p = (i + j) :: q ∧ ns[j]? = some c ∧ c.at? q = some m
  | [], p => by simp [addressesAll]
  | n :: ns, p => by
    rw [addressesAll, List.mem_append, mem_addressesAll (i + 1) ns p, List.mem_map]
    constructor
    · rintro (⟨q, hq, rfl⟩ | ⟨j, q, c, m, rfl, hc, hm⟩)
      · obtain ⟨m, hm⟩ := (mem_addresses n q).1 hq
        exact ⟨0, q, n, m, rfl, rfl, hm⟩
      · have hplace : i + 1 + j = i + (j + 1) := by omega
        exact ⟨j + 1, q, c, m, by rw [hplace], hc, hm⟩
    · rintro ⟨j, q, c, m, rfl, hc, hm⟩
      cases j with
      | zero =>
        obtain rfl : n = c := Option.some.inj hc
        exact .inl ⟨q, (mem_addresses n q).2 ⟨m, hm⟩, rfl⟩
      | succ j =>
        have hplace : i + (j + 1) = i + 1 + j := by omega
        exact .inr ⟨j, q, c, m, by rw [hplace], hc, hm⟩

end

mutual

theorem pairwise_addresses : ∀ n : Node, n.addresses.Pairwise (· < ·)
  | mk k r s e cs => by
    rw [addresses, List.pairwise_cons]
    refine ⟨?_, pairwise_addressesAll 0 cs⟩
    intro p hp
    obtain ⟨j, q, -, -, rfl, -⟩ := (mem_addressesAll 0 cs p).1 hp
    exact List.nil_lt_cons _ _

theorem pairwise_addressesAll (i : Nat) : ∀ ns : List Node, (addressesAll i ns).Pairwise (· < ·)
  | [] => by
    rw [addressesAll]
    exact .nil
  | n :: ns => by
    rw [addressesAll, List.pairwise_append, List.pairwise_map]
    refine ⟨?_, pairwise_addressesAll (i + 1) ns, ?_⟩
    · refine (pairwise_addresses n).imp ?_
      intro p q hlt
      exact List.cons_lt_cons_iff.2 (.inr ⟨rfl, hlt⟩)
    · intro p hp q hq
      obtain ⟨p', -, rfl⟩ := List.mem_map.1 hp
      obtain ⟨j, q', -, -, rfl, -⟩ := (mem_addressesAll (i + 1) ns q).1 hq
      have hlt : i < i + 1 + j := by omega
      exact List.cons_lt_cons_iff.2 (.inl hlt)

end

/-- The walk goes from a node to a child of it, or to a child of something above it. -/
def Follows (p q : List Nat) : Prop := q ≠ [] ∧ q.dropLast <+: p

theorem follows_cons {p q : List Nat} (i : Nat) (h : Follows p q) : Follows (i :: p) (i :: q) := by
  obtain ⟨hq, hprefix⟩ := h
  refine ⟨List.cons_ne_nil i q, ?_⟩
  rw [List.dropLast_cons_of_ne_nil hq]
  exact (List.prefix_cons_inj i).2 hprefix

theorem follows_single (p : List Nat) (i : Nat) : Follows p [i] :=
  ⟨List.cons_ne_nil i [], List.nil_prefix⟩

theorem head?_addressesAll {i : Nat} {ns : List Node} {p : List Nat}
    (h : (addressesAll i ns).head? = some p) : p = [i] := by
  cases ns with
  | nil => simp [addressesAll] at h
  | cons n ns => simpa [addressesAll, addresses_eq, eq_comm] using h

mutual

theorem isChain_addresses : ∀ n : Node, n.addresses.IsChain Follows
  | mk k r s e cs => by
    rw [addresses, List.isChain_cons]
    refine ⟨?_, isChain_addressesAll 0 cs⟩
    intro p hp
    rw [head?_addressesAll hp]
    exact follows_single [] 0

theorem isChain_addressesAll (i : Nat) : ∀ ns : List Node, (addressesAll i ns).IsChain Follows
  | [] => by
    rw [addressesAll]
    exact .nil
  | n :: ns => by
    have hinside : (n.addresses.map (i :: ·)).IsChain Follows :=
      List.isChain_map_of_isChain (i :: ·) (fun _ _ h => follows_cons i h) (isChain_addresses n)
    rw [addressesAll]
    refine hinside.append (isChain_addressesAll (i + 1) ns) ?_
    intro p _ q hq
    rw [head?_addressesAll hq]
    exact follows_single p (i + 1)

end

end Node

namespace Visit

def child? (v : Visit) (i : Nat) : Option Visit :=
  v.node.children[i]?.map fun c =>
    ⟨v.depth + 1, some v.node,
      c.kind.isNamed && !(v.node.children.take i).any (·.kind.isNamed), c⟩

def at? (v : Visit) : List Nat → Option Visit
  | [] => some v
  | i :: p => (v.child? i).bind fun w => w.at? p

theorem node_at? (v : Visit) (p : List Nat) : (v.at? p).map (·.node) = v.node.at? p := by
  induction p generalizing v with
  | nil => rfl
  | cons i p ih =>
    rw [at?, Node.at?, child?]
    cases v.node.children[i]? with
    | none => rfl
    | some c => exact ih _

theorem depth_at? {v w : Visit} {p : List Nat} (h : v.at? p = some w) :
    w.depth = v.depth + p.length := by
  induction p generalizing v with
  | nil =>
    cases h
    rfl
  | cons i p ih =>
    rw [at?, child?] at h
    cases hc : v.node.children[i]? with
    | none =>
      rw [hc] at h
      cases h
    | some c =>
      rw [hc] at h
      have hdepth : w.depth = v.depth + 1 + p.length := ih h
      rw [hdepth, List.length_cons]
      omega

end Visit

namespace Node

mutual

/-- The visits to a tree are those at its addresses. -/
theorem visits_eq : ∀ (n : Node) (d : Nat) (parent : Option Node) (leads : Bool),
    (n.visits d parent leads).map some = n.addresses.map (Visit.at? ⟨d, parent, leads, n⟩)
  | mk k r s e cs, d, parent, leads => by
    rw [visits, addresses, List.map_cons, List.map_cons]
    congr 1
    exact visitsAll_eq [] cs ⟨d, parent, leads, mk k r s e cs⟩ rfl

theorem visitsAll_eq (before : List Node) : ∀ (ns : List Node) (v : Visit),
    v.node.children = before ++ ns →
      (visitsAll (v.depth + 1) v.node (before.any (·.kind.isNamed)) ns).map some =
        (addressesAll before.length ns).map v.at?
  | [], v, _ => by
    rw [visitsAll, addressesAll]
    rfl
  | n :: ns, v, hv => by
    have hrest := visitsAll_eq (before ++ [n]) ns v (by simp [hv])
    have hchild : v.child? before.length = some ⟨v.depth + 1, some v.node,
        n.kind.isNamed && !before.any (·.kind.isNamed), n⟩ := by
      simp [Visit.child?, hv]
    have hfirst : (n.addresses.map (before.length :: ·)).map v.at? =
        n.addresses.map (Visit.at? ⟨v.depth + 1, some v.node,
          n.kind.isNamed && !before.any (·.kind.isNamed), n⟩) := by
      rw [List.map_map]
      refine List.map_congr_left fun p _ => ?_
      rw [Function.comp_apply, Visit.at?, hchild, Option.bind_some]
    rw [visitsAll, addressesAll, List.map_append, List.map_append, visits_eq, hfirst]
    congr 1
    simpa using hrest

end

theorem getElem?_visits (root : Node) (parent : Option Node) (i : Nat) :
    (root.visits 0 parent false)[i]? =
      root.addresses[i]?.bind (Visit.at? ⟨0, parent, false, root⟩) := by
  have h : (root.visits 0 parent false)[i]?.map some =
      root.addresses[i]?.map (Visit.at? ⟨0, parent, false, root⟩) := by
    rw [← List.getElem?_map, ← List.getElem?_map, visits_eq]
  cases hp : root.addresses[i]? with
  | none => simpa [hp] using h
  | some p =>
    rw [hp] at h
    obtain ⟨v, hv, hat⟩ := Option.map_eq_some_iff.1 h
    rw [hv, Option.bind_some, ← hat]

theorem exists_visit {root : Node} (parent : Option Node) {i : Nat} {p : List Nat}
    (h : root.addresses[i]? = some p) : ∃ v : Visit, (root.visits 0 parent false)[i]? = some v ∧
      Visit.at? ⟨0, parent, false, root⟩ p = some v ∧ root.at? p = some v.node ∧
      v.depth = p.length := by
  obtain ⟨m, hm⟩ := (root.mem_addresses p).1 (List.mem_of_getElem? h)
  have hnode := Visit.node_at? ⟨0, parent, false, root⟩ p
  rw [hm] at hnode
  obtain ⟨v, hv, rfl⟩ := Option.map_eq_some_iff.1 hnode
  refine ⟨v, ?_, hv, hm, by simpa using Visit.depth_at? hv⟩
  rw [getElem?_visits, h, Option.bind_some, hv]

theorem exists_index {root : Node} {parent : Option Node} {p : List Nat} {v : Visit}
    (h : Visit.at? ⟨0, parent, false, root⟩ p = some v) :
    ∃ i : Nat, root.addresses[i]? = some p ∧ (root.visits 0 parent false)[i]? = some v := by
  have hnode := Visit.node_at? ⟨0, parent, false, root⟩ p
  rw [h] at hnode
  obtain ⟨i, hi⟩ := List.mem_iff_getElem?.1 ((root.mem_addresses p).2 ⟨v.node, hnode.symm⟩)
  refine ⟨i, hi, ?_⟩
  rw [getElem?_visits, hi]
  exact h

theorem follows_of_getElem? {root : Node} {i : Nat} {p q : List Nat}
    (hp : root.addresses[i]? = some p) (hq : root.addresses[i + 1]? = some q) : Follows p q := by
  obtain ⟨hi, rfl⟩ := List.getElem?_eq_some_iff.1 hp
  obtain ⟨hj, rfl⟩ := List.getElem?_eq_some_iff.1 hq
  exact root.isChain_addresses.getElem i hj

/-- The order of the addresses is the order of the visits. -/
theorem lt_iff_of_getElem? {root : Node} {i j : Nat} {p q : List Nat}
    (hp : root.addresses[i]? = some p) (hq : root.addresses[j]? = some q) : p < q ↔ i < j := by
  obtain ⟨hi, rfl⟩ := List.getElem?_eq_some_iff.1 hp
  obtain ⟨hj, rfl⟩ := List.getElem?_eq_some_iff.1 hq
  have hsorted := List.pairwise_iff_getElem.1 root.pairwise_addresses
  refine ⟨?_, hsorted i j hi hj⟩
  intro hlt
  rcases Nat.lt_trichotomy i j with h | rfl | h
  · exact h
  · exact absurd hlt (List.lt_irrefl _)
  · exact absurd hlt (List.lt_asymm (hsorted j i hj hi h))

end Node

end JavaMetrics
