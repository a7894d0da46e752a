import JavaMetrics.Proofs.Places
import JavaMetrics.Proofs.Receivers

set_option autoImplicit false

namespace JavaMetrics

def Kind.isConstructor (k : Kind) : Bool :=
  k == .constructorDeclaration || k == .compactConstructorDeclaration

theorem Kind.isCallable_iff (k : Kind) :
    k.isCallable = true ↔ k = .methodDeclaration ∨ k.isConstructor = true := by
  unfold isCallable isConstructor
  split <;> simp_all

namespace Node

structure FirstInRole (n : Node) (f : Field) (i : Nat) (c : Node) : Prop where
  child : n.children[i]? = some c
  role : c.role = some f
  first : ∀ j < i, ∀ d, n.children[j]? = some d → d.role ≠ some f

/-- A member of a class and its address. The members of an enum behind its constants stand in a node of their
own. -/
inductive MemberAt (decl : Node) : List Nat → Node → Prop
  | direct {i j : Nat} {b m : Node} (hb : decl.FirstInRole .body i b)
      (hm : b.children[j]? = some m) (hnamed : m.kind.isNamed = true)
      (hk : m.kind ≠ .enumBodyDeclarations) : MemberAt decl [i, j] m
  | behind {i j k : Nat} {b e m : Node} (hb : decl.FirstInRole .body i b)
      (he : b.children[j]? = some e) (hk : e.kind = .enumBodyDeclarations)
      (hm : e.children[k]? = some m) (hnamed : m.kind.isNamed = true) : MemberAt decl [i, j, k] m

inductive CallableBody (decl : Node) : List Nat → Prop
  | mk {q : List Nat} {m b : Node} {i : Nat} (hm : decl.MemberAt q m)
      (hk : m.kind.isCallable = true) (hb : m.FirstInRole .body i b) : CallableBody decl (q ++ [i])

/-- The code that sets up the class and its objects: values of fields, initializers, and the arguments and
bodies of enum constants. -/
inductive SetupCode (decl : Node) : List Nat → Prop
  | value {q : List Nat} {m d v : Node} {i j : Nat} (hm : decl.MemberAt q m)
      (hk : m.kind = .fieldDeclaration) (hd : m.children[i]? = some d)
      (hrole : d.role = some .declarator) (hv : d.FirstInRole .value j v) :
      SetupCode decl (q ++ [i] ++ [j])
  | initializer {q : List Nat} {m : Node} (hm : decl.MemberAt q m)
      (hk : m.kind = .block ∨ m.kind = .staticInitializer) : SetupCode decl q
  | constant {q : List Nat} {m c : Node} {i : Nat} (hm : decl.MemberAt q m)
      (hk : m.kind = .enumConstant) (hc : m.children[i]? = some c)
      (hpart : c.kind = .argumentList ∨ c.kind = .classBody) : SetupCode decl (q ++ [i])

def InCallable (decl : Node) (p : List Nat) : Prop := ∃ r, decl.CallableBody r ∧ r <+: p

def InCode (decl : Node) (p : List Nat) : Prop :=
  decl.InCallable p ∨ ∃ r, decl.SetupCode r ∧ r <+: p

end Node

namespace Place

variable (x : Place)

def members : List Place :=
  (x.child? .body).toList.flatMap fun b => b.named.flatMap fun c =>
    if c.node.kind == .enumBodyDeclarations then c.named else [c]

def setup : List Place :=
  match x.node.kind with
  | .fieldDeclaration => (x.inRole .declarator).flatMap fun d => (d.child? .value).toList
  | .block | .staticInitializer => [x]
  | .enumConstant => x.named.filter fun c => c.node.kind == .argumentList || c.node.kind == .classBody
  | _ => []

def code : List Place := if x.node.kind.isCallable then (x.child? .body).toList else x.setup

theorem map_node_members : x.members.map (·.node) = x.node.members := by
  have hbody := x.map_node_child? .body
  unfold members Node.members
  rw [← hbody]
  cases x.child? .body with
  | none => rfl
  | some b =>
    simp only [Option.map_some, Option.toList_some, List.flatMap_singleton, List.map_flatMap,
      ← b.map_node_named, List.flatMap_map]
    congr 1
    funext c
    by_cases hk : (c.node.kind == .enumBodyDeclarations) = true
    · rw [if_pos hk, if_pos hk, map_node_named]
    · rw [if_neg hk, if_neg hk]
      rfl

theorem yields_members : x.Yields x.members := by
  refine (x.yields_child? .body).flatMap fun b _ => b.yields_named.flatMap fun c _ => ?_
  split
  · exact c.yields_named
  · exact .self c

theorem map_node_values (ds : List Place) :
    (ds.flatMap fun d => (d.child? .value).toList).map (·.node) =
      ((ds.map (·.node)).filterMap fun d => (d.child? .value).map fun v => (d, v)).map (·.2) := by
  induction ds with
  | nil => rfl
  | cons d ds ih =>
    rw [List.flatMap_cons, List.map_append, ih, List.map_cons, List.filterMap_cons,
      ← d.map_node_child? .value]
    cases d.child? .value <;> rfl

theorem map_node_setup : x.setup.map (·.node) = x.node.initializersOf.map (·.2) := by
  by_cases hfield : x.node.kind = .fieldDeclaration
  · simp only [setup, Node.initializersOf, hfield, map_node_values, map_node_inRole]
  by_cases hconstant : x.node.kind = .enumConstant
  · simp only [setup, Node.initializersOf, hconstant, ← map_node_named, List.filter_map, List.map_map]
    rfl
  · unfold setup Node.initializersOf
    split <;> simp_all

theorem yields_setup : x.Yields x.setup := by
  unfold setup
  split
  · exact (x.yields_inRole _).flatMap fun d _ => d.yields_child? .value
  · exact .self x
  · exact .self x
  · exact x.yields_named.sublist List.filter_sublist
  · exact .nil x

theorem yields_code : x.Yields x.code := by
  unfold code
  split
  · exact x.yields_child? .body
  · exact x.yields_setup

theorem code_of_isTypeDeclaration {x : Place} (h : x.node.kind.isTypeDeclaration = true) : x.code = [] := by
  unfold Kind.isTypeDeclaration at h
  split at h <;> simp_all [code, setup, Kind.isCallable]

theorem setup_of_isCallable {x : Place} (h : x.node.kind.isCallable = true) : x.setup = [] := by
  unfold setup
  split <;> simp_all [Kind.isCallable]

theorem child?_eq_some {f : Field} {y : Place} : x.child? f = some y ↔
    ∃ i, y.address = x.address ++ [i] ∧ x.node.FirstInRole f i y.node := by
  rw [child?, List.find?_eq_some_iff_getElem]
  constructor
  · rintro ⟨hrole, i, hi, hy, hfirst⟩
    obtain ⟨haddress, hnode⟩ := (x.getElem?_children i).1 (List.getElem?_eq_some_iff.2 ⟨hi, hy⟩)
    refine ⟨i, haddress, hnode, by simpa using hrole, ?_⟩
    intro j hj d hd
    obtain ⟨hj', hplace⟩ := List.getElem?_eq_some_iff.1
      ((x.getElem?_children (y := ⟨x.address ++ [j], d⟩) j).2 ⟨rfl, hd⟩)
    simpa [hplace] using hfirst j hj
  · rintro ⟨i, haddress, hfirst⟩
    obtain ⟨hi, hy⟩ := List.getElem?_eq_some_iff.1 ((x.getElem?_children i).2 ⟨haddress, hfirst.child⟩)
    refine ⟨by simpa using hfirst.role, i, hi, hy, ?_⟩
    intro j hj
    have hj' : j < x.children.length := by omega
    obtain ⟨-, hnode⟩ := (x.getElem?_children j).1 (List.getElem?_eq_getElem hj')
    simpa using hfirst.first j hj _ hnode

theorem mem_named {y : Place} : y ∈ x.named ↔
    (∃ i, y.address = x.address ++ [i] ∧ x.node.children[i]? = some y.node) ∧
      y.node.kind.isNamed = true := by
  rw [named, List.mem_filter, mem_children]

theorem mem_members {decl : Node} {y : Place} :
    y ∈ members ⟨[], decl⟩ ↔ decl.MemberAt y.address y.node := by
  obtain ⟨p, m⟩ := y
  simp only [members, List.mem_flatMap, Option.mem_toList, child?_eq_some, mem_named]
  constructor
  · rintro ⟨⟨-, b⟩, ⟨i, rfl, hb⟩, ⟨-, c⟩, ⟨⟨j, rfl, hc⟩, hnamed⟩, hmem⟩
    split at hmem
    · rename_i hk
      obtain ⟨⟨k, rfl, hm⟩, hnamed'⟩ := (mem_named _).1 hmem
      exact .behind hb hc (by simpa using hk) hm hnamed'
    · rename_i hk
      cases List.mem_singleton.1 hmem
      exact .direct hb hc hnamed (by simpa using hk)
  · intro hm
    cases hm with
    | @direct i j b m hb hm hnamed hk =>
      refine ⟨⟨[i], b⟩, ⟨i, rfl, hb⟩, ⟨[i, j], m⟩, ⟨⟨j, rfl, hm⟩, hnamed⟩, ?_⟩
      simp [hk]
    | @behind i j k b e m hb he hk hm hnamed =>
      have hnamed' : e.kind.isNamed = true := by rw [hk]; rfl
      refine ⟨⟨[i], b⟩, ⟨i, rfl, hb⟩, ⟨[i, j], e⟩, ⟨⟨j, rfl, he⟩, hnamed'⟩, ?_⟩
      rw [if_pos (by simp [hk]), mem_named]
      exact ⟨⟨k, rfl, hm⟩, hnamed⟩

theorem callableBody_iff {decl : Node} {r : List Nat} : decl.CallableBody r ↔
    ∃ m ∈ members ⟨[], decl⟩, m.node.kind.isCallable = true ∧
      ∃ y ∈ (m.child? .body).toList, y.address = r := by
  simp only [mem_members, Option.mem_toList, child?_eq_some]
  constructor
  · rintro ⟨hm, hk, hb⟩
    exact ⟨⟨_, _⟩, hm, hk, ⟨_, _⟩, ⟨_, rfl, hb⟩, rfl⟩
  · rintro ⟨⟨q, m⟩, hm, hk, ⟨-, b⟩, ⟨i, rfl, hb⟩, rfl⟩
    exact .mk hm hk hb

theorem setupCode_iff {decl : Node} {r : List Nat} : decl.SetupCode r ↔
    ∃ m ∈ members ⟨[], decl⟩, ∃ y ∈ m.setup, y.address = r := by
  constructor
  · intro hr
    cases hr with
    | @value q m d v i j hm hk hd hrole hv =>
      refine ⟨⟨q, m⟩, mem_members.2 hm, ⟨q ++ [i] ++ [j], v⟩, ?_, rfl⟩
      simp only [setup, hk, List.mem_flatMap, inRole, List.mem_filter, mem_children,
        Option.mem_toList, child?_eq_some]
      exact ⟨⟨q ++ [i], d⟩, ⟨⟨i, rfl, hd⟩, by simp [hrole]⟩, j, rfl, hv⟩
    | @initializer _ m hm hk =>
      refine ⟨⟨r, m⟩, mem_members.2 hm, ⟨r, m⟩, ?_, rfl⟩
      rcases hk with hk | hk <;> simp [setup, hk]
    | @constant q m c i hm hk hc hpart =>
      refine ⟨⟨q, m⟩, mem_members.2 hm, ⟨q ++ [i], c⟩, ?_, rfl⟩
      have hnamed : c.kind.isNamed = true := by rcases hpart with hpart | hpart <;> rw [hpart] <;> rfl
      simp only [setup, hk, List.mem_filter, mem_named]
      exact ⟨⟨⟨i, rfl, hc⟩, hnamed⟩, by simpa using hpart⟩
  · rintro ⟨⟨q, m⟩, hm, y, hy, rfl⟩
    rw [mem_members] at hm
    unfold setup at hy
    split at hy
    · rename_i hk
      simp only [List.mem_flatMap, inRole, List.mem_filter, mem_children, Option.mem_toList,
        child?_eq_some] at hy
      obtain ⟨⟨-, d⟩, ⟨⟨i, rfl, hd⟩, hrole⟩, j, hy, hv⟩ := hy
      rw [hy]
      exact .value hm hk hd (by simpa using hrole) hv
    · rename_i hk
      rw [List.mem_singleton.1 hy]
      exact .initializer hm (.inl hk)
    · rename_i hk
      rw [List.mem_singleton.1 hy]
      exact .initializer hm (.inr hk)
    · rename_i hk
      obtain ⟨hnamed, hpart⟩ := List.mem_filter.1 hy
      obtain ⟨⟨i, hy, hc⟩, -⟩ := (mem_named _).1 hnamed
      rw [hy]
      exact .constant hm hk hc (by simpa using hpart)
    · cases hy

end Place

namespace Node

variable (decl : Node)

def memberPlaces : List Place := Place.members ⟨[], decl⟩

/-- The roots of the bodies of methods and constructors, in the order of `ClassFacts.callables`. -/
def callablePlaces : List (List Place) :=
  (decl.memberPlaces.filter (·.node.kind == .methodDeclaration) ++
    decl.memberPlaces.filter (·.node.kind.isConstructor)).map fun m => (m.child? .body).toList

theorem length_callablePlaces : decl.callablePlaces.length = decl.members.countP (·.kind.isCallable) := by
  have hone (k : Kind) : (if k == .methodDeclaration then 1 else 0) +
      (if k.isConstructor then 1 else 0) = if k.isCallable then 1 else 0 := by
    cases k <;> rfl
  rw [callablePlaces, memberPlaces, ← Place.map_node_members ⟨[], decl⟩, List.length_map,
    List.length_append, ← List.countP_eq_length_filter, ← List.countP_eq_length_filter]
  induction Place.members ⟨[], decl⟩ with
  | nil => rfl
  | cons m ms ih =>
    rw [List.map_cons, List.countP_cons, List.countP_cons, List.countP_cons, ← ih, ← hone]
    omega

/-- The roots of all bodies, in the order of `ClassFacts.bodies`. -/
def bodyPlaces : List (List Place) :=
  decl.callablePlaces ++ [decl.memberPlaces.flatMap (·.setup)]

def bodyRoots : List (List (List Nat)) := decl.bodyPlaces.map (·.map (·.address))

theorem mem_flatten_callablePlaces {y : Place} : y ∈ decl.callablePlaces.flatten ↔
    ∃ m ∈ decl.memberPlaces, m.node.kind.isCallable = true ∧ y ∈ (m.child? .body).toList := by
  simp only [callablePlaces, ← List.flatMap_def, List.mem_flatMap, List.mem_append, List.mem_filter,
    beq_iff_eq, ← and_or_left, ← Kind.isCallable_iff, and_assoc]

theorem inCallable_iff (p : List Nat) : decl.InCallable p ↔
    Place.Under (decl.callablePlaces.flatten.map (·.address)) p := by
  simp only [InCallable, Place.callableBody_iff, Place.Under, List.mem_map,
    mem_flatten_callablePlaces, memberPlaces]
  constructor
  · rintro ⟨r, ⟨m, hm, hk, y, hy, hr⟩, hp⟩
    exact ⟨r, ⟨y, ⟨m, hm, hk, hy⟩, hr⟩, hp⟩
  · rintro ⟨r, ⟨y, ⟨m, hm, hk, hy⟩, hr⟩, hp⟩
    exact ⟨r, ⟨m, hm, hk, y, hy, hr⟩, hp⟩

theorem inCode_iff (p : List Nat) : decl.InCode p ↔
    Place.Under (decl.bodyPlaces.flatten.map (·.address)) p := by
  have hsetup : (∃ r, decl.SetupCode r ∧ r <+: p) ↔
      Place.Under ((decl.memberPlaces.flatMap (·.setup)).map (·.address)) p := by
    simp only [Place.setupCode_iff, Place.Under, List.mem_map, List.mem_flatMap, memberPlaces]
    constructor
    · rintro ⟨r, ⟨m, hm, y, hy, hr⟩, hp⟩
      exact ⟨r, ⟨y, ⟨m, hm, hy⟩, hr⟩, hp⟩
    · rintro ⟨r, ⟨y, ⟨m, hm, hy⟩, hr⟩, hp⟩
      exact ⟨r, ⟨m, hm, y, hy, hr⟩, hp⟩
  rw [InCode, inCallable_iff, hsetup, bodyPlaces, List.flatten_append, List.flatten_singleton,
    List.map_append]
  simp only [Place.Under, List.mem_append, or_and_right, exists_or]

instance : DecidablePred decl.InCallable := fun p => decidable_of_iff' _ (decl.inCallable_iff p)

instance : DecidablePred decl.InCode := fun p => decidable_of_iff' _ (decl.inCode_iff p)

theorem flatten_bodyPlaces_perm :
    decl.bodyPlaces.flatten.Perm (decl.memberPlaces.flatMap (·.code)) := by
  unfold bodyPlaces callablePlaces
  rw [List.flatten_append, List.flatten_singleton, ← List.flatMap_def, List.flatMap_append]
  induction decl.memberPlaces with
  | nil => rfl
  | cons m ms ih =>
    -- A member has code of one kind only, and it goes to the front of its part of the list.
    rw [List.flatMap_cons, List.flatMap_cons]
    refine List.Perm.trans ?_ (ih.append_left m.code)
    by_cases hmethod : (m.node.kind == .methodDeclaration) = true
    · have hkind := beq_iff_eq.1 hmethod
      have hcallable := (Kind.isCallable_iff _).2 (.inl hkind)
      have hother : m.node.kind.isConstructor = false := by
        rw [hkind]
        rfl
      simp [hmethod, hother, Place.code, hcallable, Place.setup_of_isCallable hcallable]
    · by_cases hconstructor : m.node.kind.isConstructor = true
      · have hcallable := (Kind.isCallable_iff _).2 (.inr hconstructor)
        simpa [hmethod, hconstructor, Place.code, hcallable, Place.setup_of_isCallable hcallable] using
          List.perm_append_comm_assoc _ _ _
      · have hcallable : ¬ m.node.kind.isCallable = true := by
          rw [Kind.isCallable_iff, not_or]
          exact ⟨fun hkind => hmethod (beq_iff_eq.2 hkind), hconstructor⟩
        simp only [List.filter_cons, hmethod, hconstructor, Place.code, hcallable, if_false,
          Bool.false_eq_true]
        exact List.perm_append_comm_assoc _ _ _

theorem yields_bodyPlaces : Place.Yields ⟨[], decl⟩ decl.bodyPlaces.flatten := by
  have hcode : Place.Yields ⟨[], decl⟩ (decl.memberPlaces.flatMap (·.code)) :=
    (Place.yields_members _).flatMap fun m _ => m.yields_code
  exact hcode.perm decl.flatten_bodyPlaces_perm.symm

theorem yields_callablePlaces : Place.Yields ⟨[], decl⟩ decl.callablePlaces.flatten := by
  refine decl.yields_bodyPlaces.sublist ?_
  rw [bodyPlaces, List.flatten_append]
  exact List.sublist_append_left _ _

variable {decl} {p : List Nat}

theorem existsUnique_body (h : decl.InCode p) :
    ∃! k : Nat, ∃ roots, decl.bodyRoots[k]? = some roots ∧ Place.Under roots p := by
  obtain ⟨r, hr, hrp⟩ := (decl.inCode_iff p).1 h
  obtain ⟨y, hy, rfl⟩ := List.mem_map.1 hr
  obtain ⟨ys, hys, hy⟩ := List.mem_flatten.1 hy
  obtain ⟨k, hk⟩ := List.mem_iff_getElem?.1 hys
  refine ⟨k, ⟨ys.map (·.address), ?_, y.address, List.mem_map_of_mem hy, hrp⟩, ?_⟩
  · rw [bodyRoots, List.getElem?_map, hk]
    rfl
  · rintro l ⟨roots, hl, s, hs, hsp⟩
    rw [bodyRoots, List.getElem?_map, Option.map_eq_some_iff] at hl
    obtain ⟨zs, hl, rfl⟩ := hl
    obtain ⟨z, hz, rfl⟩ := List.mem_map.1 hs
    by_contra hne
    exact (decl.yields_bodyPlaces.apart_of_ne hne hl hk hz hy).not_below hsp hrp

theorem inCode_of_mem_bodyRoots {roots : List (List Nat)} (h : roots ∈ decl.bodyRoots)
    (hp : Place.Under roots p) : decl.InCode p := by
  obtain ⟨ys, hys, rfl⟩ := List.mem_map.1 h
  obtain ⟨r, hr, hrp⟩ := hp
  obtain ⟨y, hy, rfl⟩ := List.mem_map.1 hr
  exact (decl.inCode_iff p).2
    ⟨y.address, List.mem_map_of_mem (List.mem_flatten_of_mem hys hy), hrp⟩

theorem not_inCode_of_isTypeDeclaration {q : List Nat} {m : Node} (hm : decl.MemberAt q m)
    (hk : m.kind.isTypeDeclaration = true) (hp : q <+: p) : ¬ decl.InCode p := by
  rw [inCode_iff]
  rintro ⟨r, hr, hrp⟩
  obtain ⟨y, hy, rfl⟩ := List.mem_map.1 hr
  obtain ⟨m', hm', hy⟩ := List.mem_flatMap.1 (decl.flatten_bodyPlaces_perm.mem_iff.1 hy)
  -- The nested type is the only member above the address, and it has no code of the class.
  have hsame : m' = ⟨q, m⟩ := (Place.yields_members _).eq_of_below hm' (Place.mem_members.2 hm)
    ((m'.yields_code.below hy).trans hrp) hp
  rw [hsame, Place.code_of_isTypeDeclaration hk] at hy
  cases hy

end Node

end JavaMetrics
