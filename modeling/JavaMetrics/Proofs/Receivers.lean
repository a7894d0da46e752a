import JavaMetrics.Proofs.Coupling
import JavaMetrics.Proofs.References
import JavaMetrics.Proofs.Scopes

/-!
The types of variables that calls are made on. A method looks a variable up among its parameters and then
among the types of its locals; the code that sets a class up has no such table and looks among the
fields only. A body keeps one type for each name: of all declarations of a name the last one with a
known type counts, wherever its scope ends.
-/

set_option autoImplicit false

namespace JavaMetrics

theorem Method.variableType_of_local (m : Method) {x : String} (hp : ∀ p ∈ m.parameters, p.name ≠ x) :
    m.variableType x = m.body.localTypes.get? x := by
  have hnone : m.parameters.find? (·.name == x) = none := by
    rw [List.find?_eq_none]
    intro p hmem
    simpa using hp p hmem
  rw [variableType, hnone]

namespace ClassFacts

variable {u : ClassFacts} {m : Method}

theorem receiverType_of_variable {x raw : String} (h : m.variableType x = some raw) :
    u.receiverType (some m) (.name x) = some raw := by
  simp [receiverType, h]

theorem exists_dependency_of_variable {c : Call} {x raw : String} {t : TypeRef}
    (hm : m ∈ u.callables) (hc : c ∈ m.body.calls) (hx : c.receiver = .name x)
    (hraw : m.variableType x = some raw) (ht : u.resolve raw = some t) :
    ∃ d ∈ u.dependencies, d.target.primary = t.primary := by
  have hreceiver : u.receiverType (some m) c.receiver = some raw := by
    rw [hx]
    exact receiverType_of_variable hraw
  exact exists_dependency (mem_references_of_refers (.called hm hc hreceiver)) ht

def withInitialTypes (u : ClassFacts) (types : Dict String) : ClassFacts :=
  { u with initializers := { u.initializers with localTypes := types } }

theorem references_withInitialTypes (u : ClassFacts) (types : Dict String) :
    (u.withInitialTypes types).references = u.references := by
  have hreceiver : (u.withInitialTypes types).receiverType = u.receiverType := rfl
  simp only [references, bodies, callables, calledTypes, hreceiver]
  simp [withInitialTypes]

/-- Calls on typed locals of methods and constructors are dependencies on their types; the types of locals of
initializers are not looked at. -/
theorem local_receivers (u : ClassFacts) :
    (∀ m ∈ u.callables, ∀ c ∈ m.body.calls, ∀ x raw t, c.receiver = .name x →
      (∀ p ∈ m.parameters, p.name ≠ x) → m.body.localTypes.get? x = some raw →
      u.resolve raw = some t → ∃ d ∈ u.dependencies, d.target.primary = t.primary) ∧
    ∀ types, (u.withInitialTypes types).dependencies = u.dependencies := by
  constructor
  · intro m hm c hc x raw t hx hp hraw ht
    have htype : m.variableType x = some raw := by rw [m.variableType_of_local hp, hraw]
    exact exists_dependency_of_variable hm hc hx htype ht
  · intro types
    have hresolver : Resolver.ofFacts (u.withInitialTypes types) = Resolver.ofFacts u := rfl
    rw [dependencies, dependencies, references_withInitialTypes, hresolver]

namespace Sample

def opener : ClassFacts where
  path := "A.java"
  name := "A"
  methods := [{
    name := "run"
    body := { calls := [⟨"go", .name "x", 2⟩], localTypes := .ofList [("x", "Cart<Item>")] } }]
  initializers := { calls := [⟨"go", .name "y", 4⟩], localTypes := .ofList [("y", "Store")] }

theorem resolve_cart : opener.resolve "Cart<Item>" = some (.resolved "Cart") := by decide +kernel

theorem resolve_store : opener.resolve "Store" = some (.resolved "Store") := by decide +kernel

theorem dependencies_opener : opener.dependencies = [⟨"A", .resolved "Cart"⟩] := by decide +kernel

end Sample

theorem local_receivers_opener :
    Sample.opener.resolve "Cart<Item>" = some (.resolved "Cart") ∧
    (∃ d ∈ Sample.opener.dependencies, d.target.primary = "Cart") ∧
    (Sample.opener.withInitialTypes .empty).dependencies = Sample.opener.dependencies := by
  obtain ⟨hlocal, hinitial⟩ := local_receivers Sample.opener
  refine ⟨Sample.resolve_cart, ?_, hinitial .empty⟩
  exact hlocal _ (List.mem_singleton_self _) ⟨"go", .name "x", 2⟩ (List.mem_singleton_self _) "x"
    "Cart<Item>" _ rfl (by simp) (by decide) Sample.resolve_cart

/-- Initializers lose the types of their locals. -/
theorem not_local_receivers : ¬ ∀ u : ClassFacts,
    (∀ m ∈ u.callables, ∀ c ∈ m.body.calls, ∀ x raw t, c.receiver = .name x →
      (∀ p ∈ m.parameters, p.name ≠ x) → m.body.localTypes.get? x = some raw →
      u.resolve raw = some t → ∃ d ∈ u.dependencies, d.target.primary = t.primary) ∧
    (∀ c ∈ u.initializers.calls, ∀ x raw t, c.receiver = .name x →
      u.initializers.localTypes.get? x = some raw → u.resolve raw = some t →
      ∃ d ∈ u.dependencies, d.target.primary = t.primary) := by
  intro h
  obtain ⟨d, hd, hp⟩ := (h Sample.opener).2 ⟨"go", .name "y", 4⟩ (List.mem_singleton_self _) "y"
    "Store" _ rfl (by decide) Sample.resolve_store
  rw [Sample.dependencies_opener, List.mem_singleton] at hd
  rw [hd] at hp
  exact absurd hp (by decide)

end ClassFacts

def Kind.isCallable : Kind → Bool
  | methodDeclaration | constructorDeclaration | compactConstructorDeclaration => true
  | _ => false

theorem Method.body_of_ofNode {src : Text.Source} {fields : List String}
    {components : List Parameter} {n : Node} {m : Method}
    (h : Method.ofNode src fields components n = .ok m) :
    m.body = Body.ofNode src fields m.parameters (n.child? .body) := by
  unfold Method.ofNode at h
  split at h
  · cases h
  · cases h
    rfl

namespace ClassFacts

theorem exists_callable {src : Text.Source} {path : String} {root decl n : Node} {u : ClassFacts}
    (h : ofDeclaration src path root decl = .ok u) (hn : n ∈ decl.members)
    (hk : n.kind.isCallable = true) : ∃ m ∈ u.callables,
      m.body = Body.ofNode src (u.fields.map (·.name)) m.parameters (n.child? .body) := by
  unfold ofDeclaration at h
  split at h
  · simp only [bind, Except.bind] at h
    split at h
    · cases h
    · rename_i methods hmethods
      split at h
      · cases h
      · rename_i constructors hconstructors
        cases h
        -- A member of a callable category is read as a method or as a constructor.
        by_cases hmethod : n.kind = .methodDeclaration
        · have hmem : n ∈ decl.members.filter (·.kind == .methodDeclaration) := by
            simp [hn, hmethod]
          obtain ⟨m, hm, hread⟩ := exists_mapM_of_mem hmethods hmem
          exact ⟨m, List.mem_append_left _ hm, Method.body_of_ofNode hread⟩
        · have hmem : n ∈ decl.members.filter fun m =>
              m.kind == .constructorDeclaration || m.kind == .compactConstructorDeclaration := by
            unfold Kind.isCallable at hk
            split at hk <;> simp_all
          obtain ⟨m, hm, hread⟩ := exists_mapM_of_mem hconstructors hmem
          exact ⟨m, List.mem_append_right _ hm, Method.body_of_ofNode hread⟩
  · cases h

section Blocks

variable {src : Text.Source} {fields : List String} {parameters : List Parameter} {b : Node}

theorem get?_localTypes (x : String) :
    (Body.ofNode src fields parameters (some b)).localTypes.get? x =
      lastType? (b.bodyVisits.flatMap (Visit.declarations src)) x := by
  rw [Body.ofNode_some, Collector.localTypes_foldl_step, get?_foldl_recordType]
  exact Option.or_none

theorem mem_calls_of_visit {v : Visit} {call : Call} (hv : v ∈ b.bodyVisits)
    (hcall : call ∈ v.calls src) : call ∈ (Body.ofNode src fields parameters (some b)).calls := by
  rw [Body.ofNode_some, Collector.calls_foldl_step]
  exact List.mem_append_right _ (List.mem_flatMap.2 ⟨v, hv, hcall⟩)

/-- A name with a type in an open scope has a last declaration with a type in the whole body. -/
theorem exists_last_of_typeOf? {i : Nat} {x raw : String}
    (h : TypedScope.typeOf? (TypedScope.afterVisits src parameters (b.bodyVisits.take (i + 1))) x =
      some (some raw)) :
    ∃ last, lastType? (b.bodyVisits.flatMap (Visit.declarations src)) x = some last := by
  obtain ⟨w, hw, hdeclared⟩ := (TypedScope.declared_afterVisits src parameters _).of_typeOf? h
  exact exists_lastType? (List.mem_flatMap.2 ⟨w, List.mem_of_mem_take hw, hdeclared⟩)

end Blocks

/-- A call on a variable that an open scope declares with a type is taken for a call on the type of the last
declaration of that name in the whole body, which is the same type unless the name is used again
for another. -/
theorem block_receivers (src : Text.Source) (u : ClassFacts) :
    (∀ (m : Method) (fields : List String) (b : Node), m ∈ u.callables →
      m.body = Body.ofNode src fields m.parameters (some b) →
      ∀ i v, b.bodyVisits[i]? = some v →
        (TypedScope.afterVisits src m.parameters (b.bodyVisits.take (i + 1))).map TypedScope.scope =
          ((b.bodyVisits.take (i + 1)).foldl (Collector.step src fields)
            (.start m.parameters)).scopes ∧
        ∀ call ∈ v.calls src, ∀ x raw, call.receiver = .name x → (∀ p ∈ m.parameters, p.name ≠ x) →
          TypedScope.typeOf? (TypedScope.afterVisits src m.parameters (b.bodyVisits.take (i + 1))) x =
            some (some raw) →
          ∃ last, lastType? (b.bodyVisits.flatMap (Visit.declarations src)) x = some last ∧
            m.variableType x = some last ∧
            (∀ t, u.resolve last = some t → ∃ d ∈ u.dependencies, d.target.primary = t.primary) ∧
            ((∀ w ∈ b.bodyVisits, ∀ other, (x, some other) ∈ w.declarations src → other = raw) →
              ∀ t, u.resolve raw = some t →
                ∃ d ∈ u.dependencies, d.target.primary = t.primary)) ∧
    ∀ (path : String) (root decl n : Node), ofTree src path root = .ok u →
      analyzedClass? src path root = some decl →
      n ∈ decl.members → n.kind.isCallable = true → ∃ m ∈ u.callables,
        m.body = Body.ofNode src (u.fields.map (·.name)) m.parameters (n.child? .body) := by
  constructor
  · intro m fields b hm hbody i v hv
    refine ⟨TypedScope.map_scope_afterVisits src fields m.parameters _, ?_⟩
    intro call hcall x raw hx hp htype
    obtain ⟨last, hlast⟩ := exists_last_of_typeOf? htype
    have hvariable : m.variableType x = some last := by
      rw [m.variableType_of_local hp, hbody, get?_localTypes, hlast]
    have hmem : call ∈ m.body.calls := by
      rw [hbody]
      exact mem_calls_of_visit (List.mem_of_getElem? hv) hcall
    have hedge : ∀ t, u.resolve last = some t → ∃ d ∈ u.dependencies, d.target.primary = t.primary :=
      fun t => exists_dependency_of_variable hm hmem hx hvariable
    refine ⟨last, hlast, hvariable, hedge, ?_⟩
    intro hsame
    obtain ⟨w, hw, hdeclared⟩ := List.mem_flatMap.1 (mem_of_lastType? hlast)
    rw [← hsame w hw last hdeclared]
    exact hedge
  · intro path root decl n hu hdecl hn hk
    rw [ofTree, hdecl] at hu
    exact exists_callable hu hn hk

namespace Sample

def sameType : Text.Source := .ofString "class A { void f() { { B x; x.g(); } { B x; x.h(); } } }"

def otherType : Text.Source := .ofString "class A { void f() { { B x; x.g(); } { C x; x.h(); } } }"

def innerBlock (s : Nat) : Node := .mk .block none s (s + 15)
  [.token s,
    .mk .localVariableDeclaration none (s + 2) (s + 6)
      [.leaf .typeIdentifier (some .type) (s + 2),
        .mk .variableDeclarator (some .declarator) (s + 4) (s + 5)
          [.leaf .identifier (some .name) (s + 4)],
        .token (s + 5)],
    .mk .expressionStatement none (s + 7) (s + 13)
      [.mk .methodInvocation none (s + 7) (s + 12)
        [.leaf .identifier (some .object) (s + 7), .token (s + 8),
          .leaf .identifier (some .name) (s + 9),
          .mk .argumentList none (s + 10) (s + 12) [.token (s + 10), .token (s + 11)]],
        .token (s + 12)],
    .token (s + 14)]

def outerBlock : Node := .mk .block (some .body) 19 54
  [.token 19, innerBlock 21, innerBlock 37, .token 53]

def blocksTree : Node :=
  let method : Node := .mk .methodDeclaration none 10 54
    [.mk .voidType (some .type) 10 14 [], .leaf .identifier (some .name) 15,
      .mk .formalParameters (some .parameters) 16 18 [.token 16, .token 17],
      outerBlock]
  .mk .program none 0 56 [.mk .classDeclaration none 0 56
    [.token 0 5, .leaf .identifier (some .name) 6,
      .mk .classBody (some .body) 8 56 [.token 8, method, .token 55]]]

def blocksMethod (second : String) : Method where
  name := "f"
  returnType := some "void"
  span := ⟨10, 54, 1, 11, 1, 55⟩
  body := {
    calls := [⟨"g", .name "x", 1⟩, ⟨"h", .name "x", 1⟩]
    localTypes := .ofList [("x", second)] }

def blocksFacts (second : String) : ClassFacts where
  path := "A.java"
  name := "A"
  methods := [blocksMethod second]
  span := ⟨0, 56, 1, 1, 1, 57⟩

theorem ofTree_blocks_same : ofTree sameType "A.java" blocksTree = .ok (blocksFacts "B") := rfl

theorem ofTree_blocks_other : ofTree otherType "A.java" blocksTree = .ok (blocksFacts "C") := rfl

theorem body_blocks_same :
    (blocksMethod "B").body = Body.ofNode sameType [] [] (some outerBlock) := rfl

theorem body_blocks_other :
    (blocksMethod "C").body = Body.ofNode otherType [] [] (some outerBlock) := rfl

theorem declarations_blocks_same :
    outerBlock.bodyVisits.flatMap (Visit.declarations sameType) =
      [("x", some "B"), ("x", some "B")] := rfl

theorem resolve_first_same : (blocksFacts "B").resolve "B" = some (.resolved "B") := by
  decide +kernel

theorem resolve_first_other : (blocksFacts "C").resolve "B" = some (.resolved "B") := by
  decide +kernel

theorem dependencies_blocks_other :
    (blocksFacts "C").dependencies = [⟨"A", .resolved "C"⟩] := by
  decide +kernel

end Sample

theorem block_receivers_same :
    TypedScope.typeOf? (TypedScope.afterVisits Sample.sameType []
      (Sample.outerBlock.bodyVisits.take 11)) "x" = some (some "B") ∧
    (∃ d ∈ (Sample.blocksFacts "B").dependencies, d.target.primary = "B") ∧
    ∃ m ∈ (Sample.blocksFacts "B").callables,
      m.body = Body.ofNode Sample.sameType [] m.parameters (some Sample.outerBlock) := by
  obtain ⟨hlaw, hread⟩ := block_receivers Sample.sameType (Sample.blocksFacts "B")
  obtain ⟨-, hcalls⟩ := hlaw (Sample.blocksMethod "B") [] Sample.outerBlock
    (List.mem_singleton_self _) Sample.body_blocks_same 10 _ rfl
  obtain ⟨last, -, -, -, hkept⟩ := hcalls ⟨"g", .name "x", 1⟩ (List.mem_singleton_self _) "x" "B" rfl
    (by simp [Sample.blocksMethod]) rfl
  refine ⟨rfl, hkept ?_ _ Sample.resolve_first_same, ?_⟩
  · intro w hw other hother
    have hmem := List.mem_flatMap.2 ⟨w, hw, hother⟩
    rw [Sample.declarations_blocks_same] at hmem
    simpa using hmem
  · exact hread "A.java" Sample.blocksTree _ _ Sample.ofTree_blocks_same rfl
      (List.mem_singleton_self _) rfl

/-- A second block takes the type of the first one's variable away. -/
theorem not_block_receivers : ¬ ∀ (src : Text.Source) (path : String) (root : Node) (u : ClassFacts)
    (m : Method) (b : Node), ofTree src path root = .ok u → m ∈ u.callables →
    m.body = Body.ofNode src (u.fields.map (·.name)) m.parameters (some b) →
    ∀ i v, b.bodyVisits[i]? = some v → ∀ call ∈ v.calls src, ∀ x raw, call.receiver = .name x →
      (∀ p ∈ m.parameters, p.name ≠ x) →
      TypedScope.typeOf? (TypedScope.afterVisits src m.parameters (b.bodyVisits.take (i + 1))) x =
        some (some raw) →
      ∀ t, u.resolve raw = some t → ∃ d ∈ u.dependencies, d.target.primary = t.primary := by
  intro h
  obtain ⟨d, hd, hp⟩ := h Sample.otherType "A.java" Sample.blocksTree _ (Sample.blocksMethod "C")
    Sample.outerBlock Sample.ofTree_blocks_other (List.mem_singleton_self _)
    Sample.body_blocks_other 10 _ rfl ⟨"g", .name "x", 1⟩ (List.mem_singleton_self _) "x" "B" rfl
    (by simp [Sample.blocksMethod]) rfl _ Sample.resolve_first_other
  rw [Sample.dependencies_blocks_other, List.mem_singleton] at hd
  rw [hd] at hp
  exact absurd hp (by decide)

end ClassFacts

end JavaMetrics
