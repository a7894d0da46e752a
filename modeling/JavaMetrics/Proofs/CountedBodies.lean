import JavaMetrics.Proofs.ClassCode
import JavaMetrics.Proofs.CommentedFacts

set_option autoImplicit false

namespace JavaMetrics

namespace Node

def isDecision (n : Node) : Bool :=
  match n.kind with
  | .ifStatement | .forStatement | .enhancedForStatement | .whileStatement | .doStatement
  | .ternaryExpression | .catchClause => true
  | .switchLabel => !(n.children.head?).any (·.kind == .defaultKeyword)
  | _ => false

def isInvocation (n : Node) : Bool := n.kind == .methodInvocation && (n.child? .name).isSome

theorem total_decision (n : Node) : n.decision.total = if n.isDecision then 1 else 0 := by
  unfold decision isDecision
  split
  case h_6 hk =>
    rw [hk]
    cases (n.children.head?).any (·.kind == .defaultKeyword) <;> rfl
  all_goals simp [*, Decisions.total]

theorem total_foldl_decision (ns : List Node) (d : Decisions) :
    (ns.foldl (fun d n => d.add n.decision) d).total = d.total + ns.countP isDecision := by
  induction ns generalizing d with
  | nil => rfl
  | cons n ns ih =>
    rw [List.foldl_cons, ih, Decisions.total_add, total_decision, List.countP_cons]
    omega

theorem total_decisions (n : Node) : n.decisions.total = n.preorder.countP isDecision := by
  rw [decisions, total_foldl_decision]
  exact Nat.zero_add _

end Node

theorem Visit.length_calls (src : Text.Source) (v : Visit) :
    (v.calls src).length = if v.node.isInvocation then 1 else 0 := by
  unfold calls Node.isInvocation
  split
  case h_1 hk => cases v.node.child? .name <;> simp [hk]
  case h_2 hk =>
    have hother : (v.node.kind == .methodInvocation) = false := by simpa using hk
    rw [hother]
    rfl

theorem Visit.length_flatMap_calls (src : Text.Source) (vs : List Visit) :
    (vs.flatMap (calls src)).length = (vs.map (·.node)).countP Node.isInvocation := by
  induction vs with
  | nil => rfl
  | cons v vs ih =>
    rw [List.flatMap_cons, List.length_append, ih, length_calls, List.map_cons, List.countP_cons]
    omega

theorem sumOf_map {α β : Type} (f : β → Nat) (g : α → β) (xs : List α) :
    sumOf f (xs.map g) = sumOf (fun x => f (g x)) xs := by
  induction xs with
  | nil => rfl
  | cons x xs ih => rw [List.map_cons, sumOf, sumOf, ih]

theorem sumOf_flatten {α β : Type} {f : α → Nat} {g : β → Nat} {xs : List α} {yss : List (List β)}
    (h : List.Forall₂ (fun x ys => f x = sumOf g ys) xs yss) : sumOf f xs = sumOf g yss.flatten := by
  induction h with
  | nil => rfl
  | cons hx _ ih => rw [List.flatten_cons, sumOf_append, sumOf, hx, ih]

/-- Counts at places apart add up to the count in the region that they make up. -/
theorem Place.sumOf_eq_count {α : Type} {f : α → Nat} {test : Node → Bool} {tree : Node}
    {region : List Nat → Prop} [DecidablePred region] {xs : List α} {yss : List (List Place)}
    (h : List.Forall₂ (fun x ys => f x = sumOf (fun y => y.node.preorder.countP test) ys) xs yss)
    (hyss : Yields ⟨[], tree⟩ yss.flatten)
    (hregion : ∀ p, region p ↔ Under (yss.flatten.map (·.address)) p) :
    sumOf f xs = tree.count test region := by
  rw [sumOf_flatten h, ← count_under hyss]
  exact (Node.count_congr (fun _ _ _ => rfl) hregion).symm

namespace Body

variable (src : Text.Source) (fields : List String)

structure Counts (b : Body) (places : List Place) : Prop where
  decisions : b.decisions.total = sumOf (fun y => y.node.preorder.countP Node.isDecision) places
  calls : b.calls.length = sumOf (fun y => y.node.preorder.countP Node.isInvocation) places

structure CountsBelow (b : Body) (tree : Node) (roots : List (List Nat)) : Prop where
  decisions : b.decisions.total = tree.count Node.isDecision (Place.Under roots)
  calls : b.calls.length = tree.count Node.isInvocation (Place.Under roots)

theorem Counts.below {b : Body} {tree : Node} {places : List Place} (h : b.Counts places)
    (hplaces : Place.Yields ⟨[], tree⟩ places) : b.CountsBelow tree (places.map (·.address)) :=
  ⟨h.decisions.trans (Place.count_under hplaces _).symm,
    h.calls.trans (Place.count_under hplaces _).symm⟩

theorem forall₂_countsBelow {tree : Node} {bs : List Body} {yss : List (List Place)}
    (h : List.Forall₂ Counts bs yss) (hyss : ∀ ys ∈ yss, Place.Yields ⟨[], tree⟩ ys) :
    List.Forall₂ (fun b roots => b.CountsBelow tree roots) bs (yss.map (·.map (·.address))) := by
  induction h with
  | nil => exact .nil
  | cons hb _ ih =>
    exact .cons (hb.below (hyss _ List.mem_cons_self)) (ih fun zs hzs => hyss zs (List.mem_cons_of_mem _ hzs))

theorem length_calls_walk (c : Collector) (parent : Option Node) (n : Node) :
    (c.walk src fields parent n).body.calls.length =
      c.body.calls.length + n.preorder.countP Node.isInvocation := by
  rw [Collector.walk, Collector.calls_foldl_step, List.length_append, Visit.length_flatMap_calls,
    Node.map_node_visits]

theorem length_calls_foldl_walk (nodes : List (Node × Node)) (c : Collector) :
    (nodes.foldl (fun c n => c.walk src fields (some n.1) n.2) c).body.calls.length =
      c.body.calls.length + sumOf (fun n => n.2.preorder.countP Node.isInvocation) nodes := by
  induction nodes generalizing c with
  | nil => rfl
  | cons n ns ih => rw [List.foldl_cons, ih, length_calls_walk, sumOf, Nat.add_assoc]

theorem total_foldl_decisions (nodes : List (Node × Node)) (d : Decisions) :
    (nodes.foldl (fun d n => d.add n.2.decisions) d).total =
      d.total + sumOf (fun n => n.2.preorder.countP Node.isDecision) nodes := by
  induction nodes generalizing d with
  | nil => rfl
  | cons n ns ih =>
    rw [List.foldl_cons, ih, Decisions.total_add, Node.total_decisions, sumOf, Nat.add_assoc]

theorem counts_ofNode (parameters : List Parameter) (x : Place) :
    (ofNode src fields parameters (x.node.child? .body)).Counts (x.child? .body).toList := by
  rw [← x.map_node_child? .body]
  cases x.child? .body with
  | none =>
    have hstart : ofNode src fields parameters none = {} := by
      simp [ofNode, Collector.foldl_declare_single]
    rw [Option.map_none, hstart]
    exact ⟨rfl, rfl⟩
  | some b =>
    rw [Option.map_some, ofNode_some]
    constructor
    · exact b.node.total_decisions
    · rw [Collector.calls_foldl_step, List.length_append, Visit.length_flatMap_calls, Node.bodyVisits,
        Node.map_node_visits]
      simp [Collector.start, sumOf]

theorem counts_ofNodes {nodes : List (Node × Node)} {places : List Place}
    (h : places.map (·.node) = nodes.map (·.2)) : (ofNodes src fields nodes).Counts places := by
  have hsum (f : Node → Nat) : 0 + sumOf (fun n => f n.2) nodes = sumOf (fun y => f y.node) places :=
    calc
      0 + sumOf (fun n => f n.2) nodes = sumOf f (nodes.map (·.2)) := by rw [sumOf_map, Nat.zero_add]
      _ = sumOf f (places.map (·.node)) := by rw [h]
      _ = sumOf (fun y => f y.node) places := sumOf_map f _ places
  constructor
  · exact (total_foldl_decisions nodes {}).trans (hsum fun n => n.preorder.countP Node.isDecision)
  · exact (length_calls_foldl_walk src fields nodes {}).trans
      (hsum fun n => n.preorder.countP Node.isInvocation)

end Body

theorem Method.exists_ofNode_iff {src : Text.Source} {fields : List String}
    {components : List Parameter} {n : Node} :
    (∃ m, ofNode src fields components n = .ok m) ↔ (n.child? .name).isSome = true := by
  unfold ofNode Node.roleText
  cases n.child? .name <;> simp

structure Node.IsNamed (decl : Node) : Prop where
  self : (decl.child? .name).isSome = true
  callables : ∀ m ∈ decl.members, m.kind.isCallable = true → (m.child? .name).isSome = true

namespace ClassFacts

variable {src : Text.Source} {path : String} {root decl : Node} {u : ClassFacts}

theorem ofDeclaration_eq_ok_iff : ofDeclaration src path root decl = .ok u ↔
    ∃ name methods constructors, decl.roleText src .name = some name ∧
      decl.methodNodes.mapM (Method.ofNode src (decl.fieldNames src) []) = .ok methods ∧
      decl.constructorNodes.mapM (Method.ofNode src (decl.fieldNames src) (decl.components src)) =
        .ok constructors ∧
      u = ofMembers src path root decl name methods constructors := by
  cases hname : decl.roleText src .name with
  | none => simp [ofDeclaration_of_unnamed src path root decl hname]
  | some name =>
    rw [ofDeclaration_of_name src path root decl hname]
    cases decl.methodNodes.mapM (Method.ofNode src (decl.fieldNames src) []) with
    | error e => simp [Except.bind]
    | ok methods =>
      cases decl.constructorNodes.mapM
          (Method.ofNode src (decl.fieldNames src) (decl.components src)) with
      | error e => simp [Except.bind, Except.map]
      | ok constructors => simp [Except.bind, Except.map, eq_comm]

theorem exists_ofDeclaration_iff : (∃ u, ofDeclaration src path root decl = .ok u) ↔ decl.IsNamed := by
  have hname : (∃ name, decl.roleText src .name = some name) ↔ (decl.child? .name).isSome = true := by
    rw [Node.roleText, ← Option.isSome_iff_exists, Option.isSome_map]
  have hread (fields : List String) (components : List Parameter) (p : Kind → Bool) :
      (∃ ms, (decl.members.filter (p ·.kind)).mapM (Method.ofNode src fields components) = .ok ms) ↔
        ∀ m ∈ decl.members, p m.kind = true → (m.child? .name).isSome = true := by
    simp only [exists_mapM_iff, Method.exists_ofNode_iff, List.mem_filter, and_imp]
  have hmethods := hread (decl.fieldNames src) [] (· == .methodDeclaration)
  have hconstructors := hread (decl.fieldNames src) (decl.components src) Kind.isConstructor
  constructor
  · rintro ⟨u, hu⟩
    obtain ⟨name, ms, cs, hn, hms, hcs, -⟩ := ofDeclaration_eq_ok_iff.1 hu
    refine ⟨hname.1 ⟨name, hn⟩, fun m hm hk => ?_⟩
    rcases (Kind.isCallable_iff _).1 hk with hk | hk
    · exact hmethods.1 ⟨ms, hms⟩ m hm (beq_iff_eq.2 hk)
    · exact hconstructors.1 ⟨cs, hcs⟩ m hm hk
  · intro h
    obtain ⟨name, hn⟩ := hname.2 h.self
    obtain ⟨ms, hms⟩ := hmethods.2 fun m hm hk =>
      h.callables m hm ((Kind.isCallable_iff _).2 (.inl (beq_iff_eq.1 hk)))
    obtain ⟨cs, hcs⟩ := hconstructors.2 fun m hm hk =>
      h.callables m hm ((Kind.isCallable_iff _).2 (.inr hk))
    exact ⟨_, ofDeclaration_eq_ok_iff.2 ⟨name, ms, cs, hn, hms, hcs, rfl⟩⟩

theorem counts_of_mapM {fields : List String} {components : List Parameter} {xs : List Place}
    {ms : List Method} (h : (xs.map (·.node)).mapM (Method.ofNode src fields components) = .ok ms) :
    List.Forall₂ (fun m ys => m.body.Counts ys) ms (xs.map fun x => (x.child? .body).toList) := by
  rw [mapM_eq_ok_iff, List.forall₂_map_left_iff] at h
  rw [List.forall₂_map_right_iff]
  refine h.flip.imp fun m x hread => ?_
  rw [Method.body_of_ofNode hread]
  exact Body.counts_ofNode src fields m.parameters x

theorem counts_callables (h : ofDeclaration src path root decl = .ok u) :
    List.Forall₂ (fun m ys => m.body.Counts ys) u.callables decl.callablePlaces := by
  obtain ⟨name, ms, cs, -, hms, hcs, rfl⟩ := ofDeclaration_eq_ok_iff.1 h
  have hmembers (p : Kind → Bool) : decl.members.filter (p ·.kind) =
      (decl.memberPlaces.filter (p ·.node.kind)).map (·.node) := by
    rw [← Place.map_node_members ⟨[], decl⟩, List.filter_map]
    rfl
  have hmethods : decl.methodNodes = _ := hmembers (· == .methodDeclaration)
  have hconstructors : decl.constructorNodes = _ := hmembers Kind.isConstructor
  rw [hmethods] at hms
  rw [hconstructors] at hcs
  rw [Node.callablePlaces, List.map_append]
  exact List.rel_append (counts_of_mapM hms) (counts_of_mapM hcs)

theorem counts_bodies (h : ofDeclaration src path root decl = .ok u) :
    List.Forall₂ Body.Counts u.bodies decl.bodyPlaces := by
  refine List.rel_append (List.forall₂_map_left_iff.2 (counts_callables h)) (.cons ?_ .nil)
  obtain ⟨name, ms, cs, -, -, -, rfl⟩ := ofDeclaration_eq_ok_iff.1 h
  refine Body.counts_ofNodes src (decl.fieldNames src) ?_
  rw [List.map_flatMap, List.map_flatMap, ← Place.map_node_members ⟨[], decl⟩, List.flatMap_map]
  congr 1
  funext m
  exact m.map_node_setup

theorem countsBelow_bodies (h : ofDeclaration src path root decl = .ok u) :
    List.Forall₂ (fun b roots => b.CountsBelow decl roots) u.bodies decl.bodyRoots := by
  have hyields : ∀ ys ∈ decl.bodyPlaces, Place.Yields ⟨[], decl⟩ ys := fun ys hys =>
    decl.yields_bodyPlaces.sublist (List.sublist_flatten_of_mem hys)
  exact Body.forall₂_countsBelow (counts_bodies h) hyields

theorem weightedMethods_eq (u : ClassFacts) : u.weightedMethods =
    u.callables.length + sumOf (fun m => m.body.decisions.total) u.callables := by
  unfold weightedMethods
  induction u.callables with
  | nil => rfl
  | cons m ms ih =>
    rw [sumOf, sumOf, ih, List.length_cons, Decisions.cyclomatic]
    omega

end ClassFacts

/-- The bodies of a class share its code out among themselves, with nothing left over and nothing counted
twice. -/
structure Node.Apportions (decl : Node) (u : ClassFacts) : Prop where
  bodies : List.Forall₂ (fun b roots => b.CountsBelow decl roots) u.bodies decl.bodyRoots
  once : ∀ p, decl.InCode p →
    ∃! k : Nat, ∃ roots, decl.bodyRoots[k]? = some roots ∧ Place.Under roots p
  elsewhere : ∀ p, ¬ decl.InCode p → ∀ roots ∈ decl.bodyRoots, ¬ Place.Under roots p
  nested : ∀ q m, decl.MemberAt q m → m.kind.isTypeDeclaration = true →
    ∀ p, q <+: p → ¬ decl.InCode p
  decisions : sumOf (fun b => b.decisions.total) u.bodies = decl.count isDecision decl.InCode
  calls : sumOf (fun b => b.calls.length) u.bodies = decl.count isInvocation decl.InCode
  invocations : (∀ p n, decl.at? p = some n → n.kind = .methodInvocation →
      (n.child? .name).isSome = true) →
    sumOf (fun b => b.calls.length) u.bodies = decl.count (·.kind == .methodInvocation) decl.InCode
  callables : u.callables.length = decl.members.countP (·.kind.isCallable)
  weighted : u.weightedMethods = u.callables.length + decl.count isDecision decl.InCallable

namespace ClassFacts

variable {src : Text.Source} {path : String} {root decl : Node} {u : ClassFacts}

theorem sum_calls_bodies (h : ofDeclaration src path root decl = .ok u) :
    sumOf (fun b => b.calls.length) u.bodies = decl.count Node.isInvocation decl.InCode :=
  Place.sumOf_eq_count ((counts_bodies h).imp fun _ _ hcounts => hcounts.calls)
    decl.yields_bodyPlaces decl.inCode_iff

theorem sum_decisions_callables (h : ofDeclaration src path root decl = .ok u) :
    sumOf (fun m => m.body.decisions.total) u.callables = decl.count Node.isDecision decl.InCallable :=
  Place.sumOf_eq_count ((counts_callables h).imp fun _ _ hcounts => hcounts.decisions)
    decl.yields_callablePlaces decl.inCallable_iff

theorem apportions_of_ofDeclaration (h : ofDeclaration src path root decl = .ok u) :
    decl.Apportions u where
  bodies := countsBelow_bodies h
  once _ hp := Node.existsUnique_body hp
  elsewhere _ hp _ hroots hunder := hp (Node.inCode_of_mem_bodyRoots hroots hunder)
  nested _ _ hm hk _ hp := Node.not_inCode_of_isTypeDeclaration hm hk hp
  decisions := Place.sumOf_eq_count ((counts_bodies h).imp fun _ _ hcounts => hcounts.decisions)
    decl.yields_bodyPlaces decl.inCode_iff
  calls := sum_calls_bodies h
  invocations hnamed := by
    rw [sum_calls_bodies h]
    refine Node.count_congr (fun p n hn => ?_) fun _ => Iff.rfl
    by_cases hk : n.kind = .methodInvocation
    · simp [Node.isInvocation, hk, hnamed p n hn hk]
    · simp [Node.isInvocation, hk]
  callables := by rw [(counts_callables h).length_eq, Node.length_callablePlaces]
  weighted := by rw [weightedMethods_eq, sum_decisions_callables h]

/-- A file whose class and callables have names has facts, and the bodies in them share out the code of the
class. -/
theorem bodies_apportioned (hdecl : analyzedClass? src path root = some decl) :
    ((∃ u, ofTree src path root = .ok u) ↔ decl.IsNamed) ∧
      ∀ u, ofTree src path root = .ok u → decl.Apportions u := by
  have htree : ofTree src path root = ofDeclaration src path root decl := by rw [ofTree, hdecl]
  rw [htree]
  exact ⟨exists_ofDeclaration_iff, fun u hu => apportions_of_ofDeclaration hu⟩

namespace Sample

def gates : Text.Source := .ofString
  "class A { int s = p() ? 1 : q(); void f() { if (s) g(); } class B { void f() { if (s) g(); } } }"

def callAt (s : Nat) : Node := .mk .methodInvocation none s (s + 3)
  [.leaf .identifier (some .name) s,
    .mk .argumentList none (s + 1) (s + 3) [.token (s + 1), .token (s + 2)]]

def gateAt (s : Nat) : Node := .mk .methodDeclaration none s (s + 24)
  [.mk .voidType (some .type) s (s + 4) [], .leaf .identifier (some .name) (s + 5),
    .mk .formalParameters (some .parameters) (s + 6) (s + 8)
      [.token (s + 6), .token (s + 7)],
    .mk .block (some .body) (s + 9) (s + 24)
      [.token (s + 9),
        .mk .ifStatement none (s + 11) (s + 22)
          [.token (s + 11) (s + 13),
            .mk .parenthesizedExpression none (s + 14) (s + 17)
              [.token (s + 14), .leaf .identifier none (s + 15), .token (s + 16)],
            .mk .expressionStatement none (s + 18) (s + 22) [callAt (s + 18), .token (s + 21)]],
        .token (s + 23)]]

def gateField : Node := .mk .fieldDeclaration none 10 32
  [.mk .integralType (some .type) 10 13 [],
    .mk .variableDeclarator (some .declarator) 14 31
      [.leaf .identifier (some .name) 14, .token 16,
        .mk .ternaryExpression (some .value) 18 31
          [callAt 18, .token 22, .leaf .numberLiteral none 24, .token 26, callAt 28]],
    .token 31]

def gateClass : Node := .mk .classDeclaration none 0 96
  [.token 0 5, .leaf .identifier (some .name) 6,
    .mk .classBody (some .body) 8 96
      [.token 8, gateField, gateAt 33,
        .mk .classDeclaration none 58 94
          [.token 58 63, .leaf .identifier (some .name) 64,
            .mk .classBody (some .body) 66 94 [.token 66, gateAt 68, .token 93]],
        .token 95]]

def gateTree : Node := .mk .program none 0 96 [gateClass]

theorem analyzedClass?_gates : analyzedClass? gates "A.java" gateTree = some gateClass := by
  -- The file declares one class, so that its name does not matter.
  have hcandidates : gateTree.namedChildren.filter (·.kind.isAnalyzable) = [gateClass] := rfl
  simp only [analyzedClass?, hcandidates, List.find?_singleton]
  split <;> simp_all

theorem isNamed_gateClass : gateClass.IsNamed := by
  refine ⟨rfl, fun m hm _ => ?_⟩
  have hmembers : gateClass.members.all fun m => !m.kind.isCallable || (m.child? .name).isSome := by decide
  simpa [*] using List.all_eq_true.1 hmembers m hm

end Sample

/-- Of the three decisions and four calls, those of the nested class are in no body. -/
theorem bodies_apportioned_gates :
    analyzedClass? Sample.gates "A.java" Sample.gateTree = some Sample.gateClass ∧
    Sample.gateClass.preorder.countP Node.isDecision = 3 ∧
    Sample.gateClass.preorder.countP Node.isInvocation = 4 ∧
    ∃ u, ofTree Sample.gates "A.java" Sample.gateTree = .ok u ∧ Sample.gateClass.Apportions u ∧
      sumOf (fun b => b.decisions.total) u.bodies = 2 ∧ sumOf (fun b => b.calls.length) u.bodies = 3 ∧
      u.weightedMethods = 2 := by
  obtain ⟨hread, hshare⟩ := bodies_apportioned Sample.analyzedClass?_gates
  obtain ⟨u, hu⟩ := hread.2 Sample.isNamed_gateClass
  have h := hshare u hu
  refine ⟨Sample.analyzedClass?_gates, by decide, by decide, u, hu, h, ?_, ?_, ?_⟩
  · refine h.decisions.trans ?_
    decide
  · refine h.calls.trans ?_
    decide
  · rw [h.weighted, h.callables]
    decide

end ClassFacts

end JavaMetrics
