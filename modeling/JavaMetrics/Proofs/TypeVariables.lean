import JavaMetrics.Proofs.CommentedFacts
import JavaMetrics.Proofs.Coupling
import JavaMetrics.Proofs.QualifiedNames
import JavaMetrics.Proofs.References

set_option autoImplicit false

namespace JavaMetrics

namespace Node

def Introduces (src : Text.Source) (decl : Node) (t : String) : Prop :=
  ∃ ps, decl.inRole .typeParameters = [ps] ∧ ∃ p ∈ ps.children, p.kind = .typeParameter ∧
    ∃ c, p.children.filter (fun c => c.kind == .typeIdentifier || c.kind == .identifier) = [c] ∧
      src.textOf c = t

variable {src : Text.Source} {decl : Node} {t : String}

theorem mem_typeParameterNames (h : decl.Introduces src t) : t ∈ decl.typeParameterNames src := by
  obtain ⟨ps, hps, p, hp, hkind, c, hc, rfl⟩ := h
  have hchild : decl.child? .typeParameters = some ps := by
    rw [child?, ← List.head?_filter, ← inRole, hps]
    rfl
  have hnamed : p ∈ ps.namedChildren := List.mem_filter.2 ⟨hp, by rw [hkind]; rfl⟩
  have hname : p.namedChildren.find? (fun c => c.kind == .typeIdentifier || c.kind == .identifier) =
      some c := by
    rw [← List.head?_filter, namedChildren, List.filter_filter]
    have hsame : p.children.filter (fun c =>
        (c.kind == .typeIdentifier || c.kind == .identifier) && c.kind.isNamed) = [c] := by
      rw [← hc]
      apply List.filter_congr
      intro d _
      cases d.kind <;> rfl
    rw [hsame]
    rfl
  rw [typeParameterNames, hchild]
  apply List.mem_filterMap.2
  exact ⟨p, hnamed, by simp [hkind, hname]⟩

end Node

theorem mem_addNew {xs ys : List String} {x : String} : x ∈ addNew xs ys ↔ x ∈ xs ∨ x ∈ ys :=
  mem_foldl_new ys xs x

namespace ClassFacts

variable {src : Text.Source} {path : String} {root decl : Node} {u : ClassFacts} {t : String}

theorem mem_typeParameters (hu : ofTree src path root = .ok u)
    (hdecl : analyzedClass? src path root = some decl) :
    t ∈ u.typeParameters ↔ t ∈ decl.typeParameterNames src ∨
      ∃ m ∈ decl.methodNodes, t ∈ m.typeParameterNames src := by
  rw [ofTree, hdecl] at hu
  obtain ⟨name, methods, constructors, rfl⟩ := exists_ofMembers hu
  rw [ofMembers, mem_addNew, List.mem_flatMap]

/-- The written types that name `t` refer to nothing and count for nothing: a class with the same names
in scope and the same written types, those apart, is coupled to the same types and has the same
dependencies. -/
structure Neglects (u : ClassFacts) (t : String) : Prop where
  resolve : ∀ raw, TypeName.normalize raw = some t → u.resolve raw = none
  coupling : ∀ v : ClassFacts, Resolver.ofFacts v = Resolver.ofFacts u →
    (∀ raw, TypeName.normalize raw ≠ some t →
      (raw ∈ v.couplingReferences ↔ raw ∈ u.couplingReferences)) →
    v.coupledTypes = u.coupledTypes
  dependencies : ∀ v : ClassFacts, Resolver.ofFacts v = Resolver.ofFacts u →
    (∀ raw, TypeName.normalize raw ≠ some t → (v.Refers raw ↔ u.Refers raw)) →
    v.dependencies = u.dependencies

theorem exists_reference_congr {P Q : String → Prop} (found : Option TypeRef → Prop)
    (hfound : ¬ found none) (hnone : ∀ raw, TypeName.normalize raw = some t → u.resolve raw = none)
    (h : ∀ raw, TypeName.normalize raw ≠ some t → (P raw ↔ Q raw)) :
    (∃ raw, P raw ∧ found (u.resolve raw)) ↔ ∃ raw, Q raw ∧ found (u.resolve raw) := by
  have hother : ∀ raw, found (u.resolve raw) → TypeName.normalize raw ≠ some t := by
    intro raw hraw hnamed
    rw [hnone raw hnamed] at hraw
    exact hfound hraw
  apply exists_congr
  intro raw
  apply and_congr_left
  intro hraw
  exact h raw (hother raw hraw)

theorem resolve_eq_of_ofFacts {v : ClassFacts} (hr : Resolver.ofFacts v = Resolver.ofFacts u) :
    v.resolve = u.resolve := by
  funext raw
  rw [ClassFacts.resolve, hr, ← ClassFacts.resolve]

theorem neglects_of_resolve
    (hnone : ∀ raw, TypeName.normalize raw = some t → u.resolve raw = none) : u.Neglects t where
  resolve := hnone
  coupling := by
    intro v hr h
    have hmem : ∀ name, name ∈ v.coupledTypes ↔ name ∈ u.coupledTypes := by
      intro name
      rw [mem_coupledTypes, mem_coupledTypes, resolve_eq_of_ofFacts hr]
      exact exists_reference_congr (fun o => ∃ ref, o = some ref ∧ ref.primary = name) (by simp) hnone h
    exact eq_of_ascending id (pairwise_sortedNames _) (pairwise_sortedNames _) hmem
  dependencies := by
    intro v hr h
    apply dependencies_of_refersTo (congrArg Resolver.selfName hr)
    intro ref
    rw [RefersTo, RefersTo, resolve_eq_of_ofFacts hr]
    exact exists_reference_congr (· = some ref) (by simp) hnone h

theorem resolve_of_typeParameter (hword : TypeName.isWord t = true) (h : t ∈ u.typeParameters)
    {raw : String} (hraw : TypeName.normalize raw = some t) : u.resolve raw = none := by
  have hsimple : (Resolver.ofFacts u).resolveSimple t = none := by
    rw [Resolver.resolveSimple, if_pos]
    simpa [Resolver.ofFacts] using h
  rw [ClassFacts.resolve, Resolver.resolve_of_word hword hraw, hsimple]
  split <;> rfl

/-- Nothing in the file declares the name, type parameters apart, and it is none that is always there. -/
structure Undeclared (u : ClassFacts) (t : String) : Prop where
  className : t ≠ u.name
  nested : t ∉ u.nestedTypes
  imported : ∀ i ∈ u.imports, i.isSingle = true → i.simpleName ≠ t
  implicit : t ∉ TypeName.implicits
  primitive : t ∉ TypeName.primitives

end ClassFacts

namespace Resolver

theorem exists_qualify (r : Resolver) : ∃ front, ∀ name, r.qualify name = front ++ name := by
  cases hpackage : r.package with
  | none => exact ⟨"", fun name => by rw [qualify, hpackage, String.empty_append]⟩
  | some p => exact ⟨p ++ ".", fun name => by rw [qualify, hpackage]⟩

theorem qualify_ofFacts (u : ClassFacts) (name : String) :
    (ofFacts u).qualify name = ClassFacts.qualify u.package name := by
  unfold qualify ClassFacts.qualify ofFacts
  cases u.package with
  | none => rfl
  | some p => cases hempty : p.isEmpty <;> simp [Option.filter, hempty]

theorem isSelf_qualify {u : ClassFacts} {t : String} (hword : TypeName.isWord t = true)
    (hne : t ≠ u.name) : (ofFacts u).isSelf ((ofFacts u).qualify t) = false := by
  have hself : (ofFacts u).selfName = (ofFacts u).qualify u.name := (qualify_ofFacts u u.name).symm
  rw [← Bool.not_eq_true]
  intro h
  rw [isSelf, Bool.or_eq_true, beq_iff_eq, hself] at h
  rcases h with h | h
  · exact hne (qualify_inj _ h)
  · obtain ⟨front, hfront⟩ := (ofFacts u).exists_qualify
    have hinside := List.isPrefixOf_iff_prefix.1 h
    simp only [hfront, String.append_assoc, String.toList_append, List.prefix_append_right_inj]
      at hinside
    exact TypeName.not_mem_dot hword (hinside.subset (by simp))

theorem resolveSimple_of_leavesOpen {r : Resolver} {name : String} (h : r.leavesOpen name = true) :
    ∃ ref, r.resolveSimple name = some ref ∧ ref.primary = r.qualify name := by
  by_cases hd : r.onDemand = []
  · obtain ⟨hparam, hclass, hnested, hexplicit, himplicit⟩ := (leavesOpen_iff name).1 h
    refine ⟨.resolved (r.qualify name), ?_, rfl⟩
    simp [resolveSimple, hparam, hclass, hnested, hexplicit, himplicit, hd]
  · exact ⟨_, resolveSimple_of_open h hd, rfl⟩

end Resolver

namespace ClassFacts

variable {src : Text.Source} {path : String} {root decl : Node} {u : ClassFacts} {t : String}

theorem Undeclared.leavesOpen (h : u.Undeclared t) (hword : TypeName.isWord t = true)
    (hparam : t ∉ u.typeParameters) : (Resolver.ofFacts u).leavesOpen t = true := by
  rw [Resolver.leavesOpen_iff]
  refine ⟨hparam, h.className, h.nested, ?_, ?_⟩
  · rw [Option.eq_none_iff_forall_ne_some]
    intro p hp
    obtain ⟨i, hi, hsingle, hname, -⟩ := Resolver.exists_import hp
    exact h.imported i hi hsingle hname
  · rw [← Bool.not_eq_true, TypeName.isImplicit_of_isWord hword]
    exact h.implicit

theorem Undeclared.resolve (h : u.Undeclared t) (hword : TypeName.isWord t = true)
    (hparam : t ∉ u.typeParameters) {raw : String} (hraw : TypeName.normalize raw = some t) :
    ∃ ref, u.resolve raw = some ref ∧ ref.primary = qualify u.package t := by
  obtain ⟨ref, href, hprimary⟩ := Resolver.resolveSimple_of_leavesOpen (h.leavesOpen hword hparam)
  refine ⟨ref, ?_, by rw [hprimary, Resolver.qualify_ofFacts]⟩
  rw [ClassFacts.resolve, Resolver.resolve_of_word hword hraw, if_neg h.primitive, href]
  simp [Option.filter, hprimary, Resolver.isSelf_qualify hword h.className]

/-- The written types that name `t` stand for a type of the own package, and in a field, a signature or
where an object is created they count as one. -/
structure Counts (u : ClassFacts) (t : String) : Prop where
  resolve : ∀ raw, TypeName.normalize raw = some t →
    ∃ ref, u.resolve raw = some ref ∧ ref.primary = qualify u.package t
  coupling : ∀ raw ∈ u.couplingReferences, TypeName.normalize raw = some t →
    qualify u.package t ∈ u.coupledTypes ∧
      ∃ d ∈ u.dependencies, d.target.primary = qualify u.package t

theorem Undeclared.counts (h : u.Undeclared t) (hword : TypeName.isWord t = true)
    (hparam : t ∉ u.typeParameters) (hplain : u.PlainConstructors) : u.Counts t where
  resolve := fun raw hraw => h.resolve hword hparam hraw
  coupling := by
    intro raw hmem hraw
    obtain ⟨ref, href, hprimary⟩ := h.resolve hword hparam hraw
    rw [← hprimary]
    exact ⟨(u.mem_coupledTypes _).2 ⟨raw, hmem, ref, href, rfl⟩,
      exists_dependency (couplingReferences_subset hplain hmem) href⟩

/-- The type variables of a class and of its methods count for nothing. A name that neither the class
nor a method introduces, such as a type variable of a constructor, is taken for a type of the own
package if nothing else declares it. -/
theorem type_variables (hu : ofTree src path root = .ok u)
    (hdecl : analyzedClass? src path root = some decl) (hword : TypeName.isWord t = true) :
    (decl.Introduces src t ∨ (∃ m ∈ decl.methodNodes, m.Introduces src t) → u.Neglects t) ∧
    (t ∉ decl.typeParameterNames src → (∀ m ∈ decl.methodNodes, t ∉ m.typeParameterNames src) →
      u.Undeclared t → u.Counts t) := by
  have hparams := mem_typeParameters hu hdecl (t := t)
  constructor
  · intro h
    have hmem : t ∈ u.typeParameters := by
      apply hparams.2
      rcases h with hclass | ⟨m, hm, hmethod⟩
      · exact .inl (Node.mem_typeParameterNames hclass)
      · exact .inr ⟨m, hm, Node.mem_typeParameterNames hmethod⟩
    exact neglects_of_resolve fun raw => resolve_of_typeParameter hword hmem
  · intro hclass hmethods hundeclared
    apply hundeclared.counts hword _ (plainConstructors_ofTree hu)
    intro hmem
    rcases hparams.1 hmem with h | ⟨m, hm, h⟩
    · exact hclass h
    · exact hmethods m hm h

namespace Sample

def genericSource : Text.Source := .ofString "class A { <R> A(R r) { } <T> void f(T t) { } }"

def variableAt (s : Nat) : Node := .mk .typeParameters (some .typeParameters) s (s + 3)
  [.token s,
    .mk .typeParameter none (s + 1) (s + 2) [.leaf .typeIdentifier none (s + 1)],
    .token (s + 2)]

def parametersAt (s : Nat) : Node := .mk .formalParameters (some .parameters) s (s + 5)
  [.token s,
    .mk .formalParameter none (s + 1) (s + 4)
      [.leaf .typeIdentifier (some .type) (s + 1), .leaf .identifier (some .name) (s + 3)],
    .token (s + 4)]

def genericConstructor : Node := .mk .constructorDeclaration none 10 24
  [variableAt 10, .leaf .identifier (some .name) 14, parametersAt 15,
    .mk .constructorBody (some .body) 21 24 [.token 21, .token 23]]

def genericMethod : Node := .mk .methodDeclaration none 25 44
  [variableAt 25, .mk .voidType (some .type) 29 33 [], .leaf .identifier (some .name) 34,
    parametersAt 35, .mk .block (some .body) 41 44 [.token 41, .token 43]]

def genericClass : Node := .mk .classDeclaration none 0 46
  [.token 0 5, .leaf .identifier (some .name) 6,
    .mk .classBody (some .body) 8 46
      [.token 8, genericConstructor, genericMethod, .token 45]]

def genericTree : Node := .mk .program none 0 46 [genericClass]

def genericFacts : ClassFacts where
  path := "A.java"
  name := "A"
  typeParameters := ["T"]
  methods := [{ name := "f", parameters := [⟨"t", "T"⟩], returnType := some "void",
                span := ⟨25, 44, 1, 26, 1, 45⟩ }]
  constructors := [{ name := "A", parameters := [⟨"r", "R"⟩], span := ⟨10, 24, 1, 11, 1, 25⟩ }]
  span := ⟨0, 46, 1, 1, 1, 47⟩

theorem ofTree_generic : ofTree genericSource "A.java" genericTree = .ok genericFacts := rfl

theorem analyzedClass_generic :
    analyzedClass? genericSource "A.java" genericTree = some genericClass := rfl

theorem introduces_constructor : genericConstructor.Introduces genericSource "R" :=
  ⟨variableAt 10, rfl, _, List.mem_cons_of_mem _ List.mem_cons_self, rfl, _, rfl, rfl⟩

theorem introduces_method : genericMethod.Introduces genericSource "T" :=
  ⟨variableAt 25, rfl, _, List.mem_cons_of_mem _ List.mem_cons_self, rfl, _, rfl, rfl⟩

theorem undeclared_generic : genericFacts.Undeclared "R" where
  className := by decide
  nested := by decide
  imported := by decide
  implicit := by decide
  primitive := by decide

end Sample

theorem type_variables_generic :
    Sample.genericFacts.Neglects "T" ∧ Sample.genericFacts.Counts "R" := by
  constructor
  · apply (type_variables Sample.ofTree_generic Sample.analyzedClass_generic (by decide)).1
    exact .inr ⟨Sample.genericMethod, List.mem_singleton.2 rfl, Sample.introduces_method⟩
  · apply (type_variables Sample.ofTree_generic Sample.analyzedClass_generic (by decide)).2
    · decide
    · intro m hm
      rw [List.mem_singleton.1 hm]
      decide
    · exact Sample.undeclared_generic

/-- The type variable of a constructor refers to a type. -/
theorem not_type_variables :
    ¬ ∀ (src : Text.Source) (path : String) (root decl : Node) (u : ClassFacts) (t : String),
      ofTree src path root = .ok u → analyzedClass? src path root = some decl →
      TypeName.isWord t = true →
      decl.Introduces src t ∨
        (∃ m ∈ decl.methodNodes ++ decl.constructorNodes, m.Introduces src t) →
      u.resolve t = none := by
  intro h
  have hword : TypeName.isWord "R" = true := by decide
  have hnone := h _ _ _ _ _ "R" Sample.ofTree_generic Sample.analyzedClass_generic hword
    (.inr ⟨Sample.genericConstructor, List.mem_append_right _ (List.mem_singleton.2 rfl),
      Sample.introduces_constructor⟩)
  obtain ⟨ref, href, _⟩ := Sample.undeclared_generic.resolve hword (by decide)
    (TypeName.normalize_of_isDotted (TypeName.isDotted_of_isWord hword))
  rw [hnone] at href
  contradiction

end ClassFacts

end JavaMetrics
