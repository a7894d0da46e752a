import Mathlib.Data.List.Nodup
import JavaMetrics.Metrics.Basic
import JavaMetrics.Proofs.Addresses

set_option autoImplicit false

namespace JavaMetrics

namespace Node

mutual

theorem map_node_visits : ∀ (n : Node) (d : Nat) (parent : Option Node) (leads : Bool),
    (n.visits d parent leads).map (·.node) = n.preorder
  | mk k r s e cs, d, parent, leads => by
    rw [visits, preorder, List.map_cons, map_node_visitsAll cs]

theorem map_node_visitsAll : ∀ (ns : List Node) (d : Nat) (parent : Node) (named : Bool),
    (visitsAll d parent named ns).map (·.node) = preorderAll ns
  | [], d, parent, named => by
    rw [visitsAll, preorderAll]
    rfl
  | n :: ns, d, parent, named => by
    rw [visitsAll, preorderAll, List.map_append, map_node_visits n, map_node_visitsAll ns]

end

theorem map_at?_addresses (n : Node) : n.addresses.map n.at? = n.preorder.map some := by
  calc
    n.addresses.map n.at? = n.addresses.map fun p => (Visit.at? ⟨0, none, false, n⟩ p).map (·.node) :=
      List.map_congr_left fun p _ => (Visit.node_at? ⟨0, none, false, n⟩ p).symm
    _ = ((n.visits 0 none false).map some).map (Option.map (·.node)) := by
      rw [visits_eq, List.map_map]
      rfl
    _ = ((n.visits 0 none false).map (·.node)).map some := by
      rw [List.map_map, List.map_map]
      rfl
    _ = n.preorder.map some := by rw [map_node_visits]

theorem nodup_addresses (n : Node) : n.addresses.Nodup := by
  refine n.pairwise_addresses.imp ?_
  rintro p _ hlt rfl
  exact List.lt_irrefl p hlt

theorem filter_addresses_perm {n m : Node} {r : List Nat} (h : n.at? r = some m) :
    (n.addresses.filter fun p => decide (r <+: p)).Perm (m.addresses.map (r ++ ·)) := by
  have hinjective : Function.Injective (r ++ · : List Nat → List Nat) :=
    fun _ _ heq => List.append_cancel_left heq
  rw [List.perm_ext_iff_of_nodup (n.nodup_addresses.filter _) (m.nodup_addresses.map hinjective)]
  intro p
  rw [List.mem_filter, mem_addresses, List.mem_map, decide_eq_true_eq]
  constructor
  · rintro ⟨⟨k, hk⟩, q, rfl⟩
    rw [at?_append, h] at hk
    exact ⟨q, (m.mem_addresses q).2 ⟨k, hk⟩, rfl⟩
  · rintro ⟨q, hq, rfl⟩
    obtain ⟨k, hk⟩ := (m.mem_addresses q).1 hq
    refine ⟨⟨k, ?_⟩, List.prefix_append r q⟩
    rw [at?_append, h]
    exact hk

def count (n : Node) (test : Node → Bool) (region : List Nat → Prop) [DecidablePred region] : Nat :=
  n.addresses.countP fun p => (n.at? p).any test && decide (region p)

theorem count_congr {n : Node} {test test' : Node → Bool} {region region' : List Nat → Prop}
    [DecidablePred region] [DecidablePred region'] (htest : ∀ p m, n.at? p = some m → test m = test' m)
    (hregion : ∀ p, region p ↔ region' p) : n.count test region = n.count test' region' := by
  unfold count
  congr 1
  funext p
  rw [decide_eq_decide.2 (hregion p)]
  cases hp : n.at? p with
  | none => rfl
  | some m => rw [Option.any_some, Option.any_some, htest p m hp]

theorem count_below {n m : Node} {r : List Nat} (h : n.at? r = some m) (test : Node → Bool) :
    n.count test (r <+: ·) = m.preorder.countP test := by
  have hsubtree (q : List Nat) : n.at? (r ++ q) = m.at? q := by
    rw [at?_append, h]
    rfl
  calc
    n.count test (r <+: ·) =
        (n.addresses.filter fun p => decide (r <+: p)).countP fun p => (n.at? p).any test := by
      rw [List.countP_filter]
      rfl
    _ = (m.addresses.map (r ++ ·)).countP fun p => (n.at? p).any test :=
      (filter_addresses_perm h).countP_eq _
    _ = (m.addresses.map m.at?).countP (Option.any test) := by
      rw [List.countP_map, List.countP_map]
      congr 1
      funext q
      simp [hsubtree]
    _ = m.preorder.countP test := by
      rw [map_at?_addresses, List.countP_map]
      rfl

/-- Regions that have no address in common count together what they count one by one. -/
theorem count_or (n : Node) (test : Node → Bool) (region region' : List Nat → Prop)
    [DecidablePred region] [DecidablePred region'] (h : ∀ p, region p → ¬ region' p) :
    (n.count test fun p => region p ∨ region' p) = n.count test region + n.count test region' := by
  unfold count
  induction n.addresses with
  | nil => rfl
  | cons p ps ih =>
    rw [List.countP_cons, List.countP_cons, List.countP_cons, ih]
    by_cases hr : region p
    · have hr' : ¬ region' p := h p hr
      simp only [hr, hr', true_or, decide_true, decide_false, Bool.and_true, Bool.and_false,
        Bool.false_eq_true, if_false]
      omega
    · simp only [hr, false_or, decide_false, Bool.and_false, Bool.false_eq_true, if_false]
      omega

end Node

def Apart (p q : List Nat) : Prop := ¬ p <+: q ∧ ¬ q <+: p

namespace Apart

variable {p q p' q' : List Nat}

theorem symm (h : Apart p q) : Apart q p := ⟨h.2, h.1⟩

theorem not_below {r : List Nat} (h : Apart p q) (hp : p <+: r) : ¬ q <+: r := by
  intro hq
  exact (List.prefix_or_prefix_of_prefix hp hq).elim h.1 h.2

theorem below (h : Apart p q) (hp : p <+: p') (hq : q <+: q') : Apart p' q' :=
  ⟨fun hbelow => h.not_below (hp.trans hbelow) hq, fun hbelow => h.not_below hp (hq.trans hbelow)⟩

end Apart

/-- A node and where it stands in a tree. -/
structure Place where
  address : List Nat
  node : Node

namespace Place

/-- Places below `x` of which none lies in another. -/
structure Yields (x : Place) (ys : List Place) : Prop where
  inside : ∀ y ∈ ys, ∃ q, y.address = x.address ++ q ∧ x.node.at? q = some y.node
  apart : ys.Pairwise fun y z => Apart y.address z.address

namespace Yields

variable {x : Place} {ys zs : List Place}

theorem nil (x : Place) : x.Yields [] := ⟨by simp, .nil⟩

theorem self (x : Place) : x.Yields [x] :=
  ⟨fun y hy => ⟨[], by simp [List.mem_singleton.1 hy, Node.at?]⟩, List.pairwise_singleton _ x⟩

theorem sublist (h : x.Yields ys) (hsub : zs.Sublist ys) : x.Yields zs :=
  ⟨fun z hz => h.inside z (hsub.subset hz), h.apart.sublist hsub⟩

theorem perm (h : x.Yields ys) (hperm : ys.Perm zs) : x.Yields zs :=
  ⟨fun z hz => h.inside z (hperm.mem_iff.2 hz), h.apart.perm hperm Apart.symm⟩

theorem below (h : x.Yields ys) {y : Place} (hy : y ∈ ys) : x.address <+: y.address := by
  obtain ⟨q, hq, -⟩ := h.inside y hy
  rw [hq]
  exact List.prefix_append _ _

theorem flatMap {f : Place → List Place} (h : x.Yields ys) (hf : ∀ y ∈ ys, y.Yields (f y)) :
    x.Yields (ys.flatMap f) where
  inside z hz := by
    obtain ⟨y, hy, hz⟩ := List.mem_flatMap.1 hz
    obtain ⟨p, hp, hat⟩ := h.inside y hy
    obtain ⟨q, hq, hat'⟩ := (hf y hy).inside z hz
    refine ⟨p ++ q, by rw [hq, hp, List.append_assoc], ?_⟩
    rw [Node.at?_append, hat]
    exact hat'
  apart := by
    rw [List.pairwise_flatMap]
    refine ⟨fun y hy => (hf y hy).apart, h.apart.imp_of_mem ?_⟩
    intro y y' hy hy' hapart z hz z' hz'
    exact hapart.below ((hf y hy).below hz) ((hf y' hy').below hz')

theorem eq_of_below (h : x.Yields ys) {y z : Place} (hy : y ∈ ys) (hz : z ∈ ys) {p : List Nat}
    (hyp : y.address <+: p) (hzp : z.address <+: p) : y = z := by
  have hsymm : Std.Symm fun y z : Place => Apart y.address z.address := ⟨fun _ _ => Apart.symm⟩
  by_contra hne
  exact (h.apart.forall hy hz hne).not_below hyp hzp

theorem apart_of_ne {yss : List (List Place)} (h : x.Yields yss.flatten) {k l : Nat} (hne : k ≠ l)
    (hk : yss[k]? = some ys) (hl : yss[l]? = some zs) {y z : Place} (hy : y ∈ ys) (hz : z ∈ zs) :
    Apart y.address z.address := by
  obtain ⟨hk', rfl⟩ := List.getElem?_eq_some_iff.1 hk
  obtain ⟨hl', rfl⟩ := List.getElem?_eq_some_iff.1 hl
  have hapart := List.pairwise_iff_getElem.1 (List.pairwise_flatten.1 h.apart).2
  rcases Nat.lt_or_gt_of_ne hne with hlt | hlt
  · exact hapart k l hk' hl' hlt y hy z hz
  · exact (hapart l k hl' hk' hlt z hz y hy).symm

end Yields

def children (x : Place) : List Place := x.node.children.mapIdx fun i c => ⟨x.address ++ [i], c⟩

def named (x : Place) : List Place := x.children.filter (·.node.kind.isNamed)

def inRole (x : Place) (f : Field) : List Place := x.children.filter (·.node.role == some f)

def child? (x : Place) (f : Field) : Option Place := x.children.find? (·.node.role == some f)

variable (x : Place)

theorem getElem?_children {y : Place} (i : Nat) : x.children[i]? = some y ↔
    y.address = x.address ++ [i] ∧ x.node.children[i]? = some y.node := by
  rw [children, List.getElem?_mapIdx, Option.map_eq_some_iff]
  constructor
  · rintro ⟨c, hc, rfl⟩
    exact ⟨rfl, hc⟩
  · rintro ⟨haddress, hnode⟩
    exact ⟨y.node, hnode, by rw [← haddress]⟩

theorem mem_children {y : Place} :
    y ∈ x.children ↔ ∃ i : Nat, y.address = x.address ++ [i] ∧ x.node.children[i]? = some y.node := by
  rw [List.mem_iff_getElem?]
  exact exists_congr fun i => x.getElem?_children i

theorem map_node_children : x.children.map (·.node) = x.node.children := by
  refine List.ext_getElem (by simp [children]) ?_
  simp [children]

theorem yields_children : x.Yields x.children where
  inside y hy := by
    obtain ⟨i, haddress, hnode⟩ := x.mem_children.1 hy
    refine ⟨[i], haddress, ?_⟩
    rw [Node.at?, hnode]
    rfl
  apart := by
    rw [List.pairwise_iff_getElem]
    intro i j hi hj hlt
    have hne : ∀ i j : Nat, i ≠ j → ¬ x.address ++ [i] <+: x.address ++ [j] := by
      intro i j hne hprefix
      rw [List.prefix_append_right_inj] at hprefix
      simp [hne] at hprefix
    simp only [children, List.getElem_mapIdx]
    exact ⟨hne i j (by omega), hne j i (by omega)⟩

theorem map_node_named : x.named.map (·.node) = x.node.namedChildren := by
  rw [named, Node.namedChildren, ← x.map_node_children, List.filter_map]
  rfl

theorem map_node_inRole (f : Field) : (x.inRole f).map (·.node) = x.node.inRole f := by
  rw [inRole, Node.inRole, ← x.map_node_children, List.filter_map]
  rfl

theorem map_node_child? (f : Field) : (x.child? f).map (·.node) = x.node.child? f := by
  rw [child?, Node.child?, ← x.map_node_children, List.find?_map]
  rfl

theorem yields_named : x.Yields x.named := x.yields_children.sublist List.filter_sublist

theorem yields_inRole (f : Field) : x.Yields (x.inRole f) :=
  x.yields_children.sublist List.filter_sublist

theorem yields_child? (f : Field) : x.Yields (x.child? f).toList := by
  cases h : x.child? f with
  | none => exact .nil x
  | some y =>
    have hy : y ∈ x.children := List.mem_of_find?_eq_some h
    exact x.yields_children.sublist (List.singleton_sublist.2 hy)

def Under (roots : List (List Nat)) (p : List Nat) : Prop := ∃ r ∈ roots, r <+: p

instance (roots : List (List Nat)) : DecidablePred (Under roots) :=
  fun p => inferInstanceAs (Decidable (∃ r ∈ roots, r <+: p))

theorem count_under {n : Node} {ys : List Place} (h : Yields ⟨[], n⟩ ys) (test : Node → Bool) :
    n.count test (Under (ys.map (·.address))) = sumOf (fun y => y.node.preorder.countP test) ys := by
  induction ys with
  | nil => simp [Node.count, Under, sumOf]
  | cons y ys ih =>
    obtain ⟨hapart, -⟩ := List.pairwise_cons.1 h.apart
    obtain ⟨q, hq, hat⟩ := h.inside y List.mem_cons_self
    have hy : n.at? y.address = some y.node := by rwa [hq]
    have hsplit (p : List Nat) : Under ((y :: ys).map (·.address)) p ↔
        y.address <+: p ∨ Under (ys.map (·.address)) p := by
      simp [Under]
    have hdisjoint (p : List Nat) (hp : y.address <+: p) : ¬ Under (ys.map (·.address)) p := by
      rintro ⟨r, hr, hrp⟩
      obtain ⟨z, hz, rfl⟩ := List.mem_map.1 hr
      exact (hapart z hz).not_below hp hrp
    calc
      n.count test (Under ((y :: ys).map (·.address))) =
          n.count test fun p => y.address <+: p ∨ Under (ys.map (·.address)) p :=
        Node.count_congr (fun _ _ _ => rfl) hsplit
      _ = n.count test (y.address <+: ·) + n.count test (Under (ys.map (·.address))) :=
        n.count_or test _ _ hdisjoint
      _ = sumOf (fun y => y.node.preorder.countP test) (y :: ys) := by
        rw [Node.count_below hy, ih (h.sublist (List.sublist_cons_self y ys)), sumOf]

end Place

end JavaMetrics
